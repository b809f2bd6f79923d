import Merovingian.CanonicalForm

/-!
Parsing and canonical serialization, one after the other. Over a reader of the
JSON grammar, what the lossless parser accepts has a canonical form; the
parser accepts that form and returns the value in the order of its keys.
-/

namespace Merovingian.CanonicalRoundTrip

open ByteString DecimalText JsonText JsonValue CanonicalSerializer CanonicalParser CanonicalForm
  List

section Reader

mutual

def yyjsonNode : Json → YyjsonValue
  | .null => .null
  | .boolean value => .boolean value
  | .number token => .raw token
  | .string text => .string text
  | .array items => .array (yyjsonNodes items)
  | .object members => .object (yyjsonMemberNodes members)

def yyjsonNodes : List Json → List YyjsonValue
  | [] => []
  | item :: rest => yyjsonNode item :: yyjsonNodes rest

def yyjsonMemberNodes : List (Bytes × Json) → List (Bytes × YyjsonValue)
  | [] => []
  | (key, value) :: rest => (key, yyjsonNode value) :: yyjsonMemberNodes rest

end

/-- The library reads the JSON grammar: on well-formed UTF-8 it returns a whole
document exactly where the grammar has one, and it is that one. -/
def ReadsJson (yyjson : Yyjson) : Prop :=
  ∀ input root, utf8IsValid input = true → (yyjson.readRawNumbers input = .ok ⟨root, input.length⟩ ↔
      ∃ json, readJson utf8IsValid input = some json ∧ root = yyjsonNode json)

def grammarReader : Yyjson where
  readRawNumbers input :=
    match readJson utf8IsValid input with
    | none => .error .unexpectedCharacter
    | some json => .ok ⟨yyjsonNode json, input.length⟩

theorem readsJson_grammarReader : ReadsJson grammarReader := by
  intro input root _
  rcases hread : readJson utf8IsValid input with - | json
  · simp [grammarReader, hread]
  · simp [grammarReader, hread, eq_comm]

end Reader

/-- The values that the lossless parser returns at a depth. -/
inductive Admissible : Nat → Value → Prop where
  | null {depth : Nat} (hdepth : depth ≤ maxDepth) : Admissible depth .null
  | boolean {depth : Nat} (hdepth : depth ≤ maxDepth) (value : Bool) :
      Admissible depth (.boolean value)
  | integer {depth : Nat} (hdepth : depth ≤ maxDepth) {value : Int64}
      (hmin : minSafeInteger ≤ value) (hmax : value ≤ maxSafeInteger) :
      Admissible depth (.integer value)
  | string {depth : Nat} (hdepth : depth ≤ maxDepth) {text : Bytes}
      (htext : utf8IsValid text = true) : Admissible depth (.string text)
  | array {depth : Nat} (hdepth : depth ≤ maxDepth) {items : List Value}
      (hitems : ∀ item ∈ items, Admissible (depth + 1) item) : Admissible depth (.array items)
  | object {depth : Nat} (hdepth : depth ≤ maxDepth) {members : Object}
      (hwidth : members.length ≤ maxObjectMembers) (hnodup : (members.map Prod.fst).Nodup)
      (hkeys : ∀ member ∈ members, utf8IsValid member.1 = true)
      (hvalues : ∀ member ∈ members, Admissible (depth + 1) member.2) :
      Admissible depth (.object members)

theorem Admissible.hasCanonicalForm {depth : Nat} {value : Value} (h : Admissible depth value) :
    HasCanonicalForm value := by
  induction h with
  | null => exact .null
  | boolean _ value => exact .boolean value
  | integer => exact .integer _
  | string _ htext => exact .string htext
  | array _ _ ih => exact .array ih
  | object _ _ hnodup hkeys _ ih => exact .object hnodup hkeys ih

variable {yyjson : Yyjson} {state : Option Utf8Sequence} {depth : Nat} {value : Value}

theorem Admissible.sortedValue (h : Admissible depth value) :
    Admissible depth (sortedValue value) := by
  induction h with
  | null hdepth => exact .null hdepth
  | boolean hdepth value => exact .boolean hdepth value
  | integer hdepth hmin hmax => exact .integer hdepth hmin hmax
  | string hdepth htext => exact .string hdepth htext
  | array hdepth hitems ih =>
    rw [CanonicalForm.sortedValue, sortedItems_eq]
    exact .array hdepth (forall_mem_map.mpr ih)
  | object hdepth hwidth hnodup hkeys hvalues ih =>
    rw [CanonicalForm.sortedValue]
    refine .object hdepth ?_ ((keys_sortByKey_perm _).nodup_iff.mpr hnodup)
      (forall_mem_sorted fun member hmember => hkeys member hmember)
      (forall_mem_sorted fun member hmember => ih member hmember)
    rw [(sortByKey_perm _).length_eq, sortedMembers_eq, length_map]
    exact hwidth

section Numbers

theorem isCanonicalInt64Token_decimalDigits {n : Nat} (hpos : 0 < n) :
    isCanonicalInt64Token (decimalDigits n) = true ∧
      isCanonicalInt64Token (byte '-' :: decimalDigits n) = true := by
  obtain ⟨first, rest, hdigits, hzero⟩ := head_decimalDigits hpos
  have hall := all_isDigit_decimalDigits n
  rw [hdigits, all_cons, Bool.and_eq_true] at hall
  obtain ⟨hfirst, hrest⟩ := hall
  have hrange : first ≠ byte '-' ∧ (first < byte '1' || first > byte '9') = false := by
    clear hdigits
    revert first
    apply forall_byte
    decide +kernel
  rw [hdigits]
  constructor
  · simp only [isCanonicalInt64Token, head?_cons, Option.some.injEq, hrange.1, if_neg hzero,
      hrange.2, hrest, decide_false, Bool.false_eq_true, if_false]
  · simp only [isCanonicalInt64Token, head?_cons, decide_true, if_true, tail_cons,
      if_neg hzero, hrange.2, hrest, Bool.false_eq_true, if_false]

theorem isCanonicalInt64Token_toString (n : Int) :
    isCanonicalInt64Token (utf8 (toString n)) = true := by
  rw [utf8_toString_int]
  split_ifs with hneg
  · exact (isCanonicalInt64Token_decimalDigits (by omega)).2
  · rcases Nat.eq_zero_or_pos n.natAbs with hzero | hpos
    · rw [hzero]
      decide
    · exact (isCanonicalInt64Token_decimalDigits hpos).1

theorem isCanonicalInt64Token_iff {token : Bytes} :
    isCanonicalInt64Token token = true ↔ ∃ n : Int, token = utf8 (toString n) := by
  constructor
  · intro h
    unfold isCanonicalInt64Token at h
    dsimp only at h
    split at h
    · cases h
    next first rest hdigits =>
    split_ifs at h with hzero hrange
    · refine ⟨0, ?_⟩
      simp only [Bool.and_eq_true, Bool.not_eq_true', decide_eq_false_iff_not,
        List.isEmpty_iff] at h
      rw [if_neg (by simpa using h.1), hzero, h.2] at hdigits
      rw [hdigits]
      decide
    · have hall : (first :: rest).all isDigit = true := by
        rw [all_cons, h, Bool.and_true]
        grind [isDigit, byte]
      obtain ⟨hpos, hvalue⟩ :=
        decimalDigits_digitsValue hall (cons_ne_nil _ _) (by simpa using hzero)
      rw [← hdigits] at hvalue hpos
      by_cases hminus : token.head? = some (byte '-')
      · obtain ⟨tail, rfl⟩ := head?_eq_some_iff.mp hminus
        refine ⟨-(digitsValue tail : Int), ?_⟩
        rw [if_pos (by simp), tail_cons] at hvalue hpos
        rw [utf8_toString_int, if_pos (by omega), Int.natAbs_neg, Int.natAbs_natCast, hvalue]
      · rw [if_neg (by simpa using hminus)] at hvalue
        refine ⟨digitsValue token, ?_⟩
        rw [utf8_toString_int, if_neg (by omega), Int.natAbs_natCast, hvalue]
  · rintro ⟨n, rfl⟩
    exact isCanonicalInt64Token_toString n

theorem integer_has_no_fraction (n : Int) : ((utf8 (toString n)).any fun character =>
      character = byte '.' || character = byte 'e' || character = byte 'E') = false := by
  refine any_eq_false.mpr fun character hmem => ?_
  have hcharacter : isDigit character = true ∨ character = byte '-' := by
    have hall := all_eq_true.mp (all_isDigit_decimalDigits n.natAbs)
    rw [utf8_toString_int] at hmem
    split_ifs at hmem
    · rcases mem_cons.mp hmem with rfl | hmem
      · exact .inr rfl
      · exact .inl (hall character hmem)
    · exact .inl (hall character hmem)
  clear hmem
  revert character
  apply forall_byte
  decide +kernel

/-- A number token is taken exactly when it is the decimal form of a safe integer. -/
theorem rawNumberAsInt64_eq_ok_iff {token : Bytes} : rawNumberAsInt64 token = .ok value ↔
      ∃ number, value = .integer number ∧ token = utf8 (toString number.toInt) ∧
        minSafeInteger ≤ number ∧ number ≤ maxSafeInteger := by
  constructor
  · fun_cases rawNumberAsInt64 token <;> intro h
    case case7 _ hcanonical parsed rest hread hrest hrange =>
      obtain ⟨n, rfl⟩ := isCanonicalInt64Token_iff.mp (by simpa using hcanonical)
      rw [fromChars_toString_int] at hread
      split_ifs at hread with hbounds
      rw [Int64.toInt_minValue, Int64.toInt_maxValue] at hbounds
      cases hread
      cases h
      have hn : (Int64.ofInt n).toInt = n := Int64.toInt_ofInt_of_le (by omega) (by omega)
      exact ⟨_, rfl, by rw [hn], by simpa using hrange⟩
    all_goals cases h
  · rintro ⟨number, rfl, rfl, hmin, hmax⟩
    rw [rawNumberAsInt64, integer_has_no_fraction, isCanonicalInt64Token_toString,
      fromChars_toString]
    simp [hmin, hmax]

end Numbers

section Conversion

theorem yyjsonNodes_eq (items : List Json) : yyjsonNodes items = items.map yyjsonNode := by
  induction items with
  | nil => rfl
  | cons item items ih => rw [yyjsonNodes, ih, map_cons]

theorem yyjsonMemberNodes_eq (members : List (Bytes × Json)) :
    yyjsonMemberNodes members = members.map fun member => (member.1, yyjsonNode member.2) := by
  induction members with
  | nil => rfl
  | cons member members ih => rw [yyjsonMemberNodes, ih, map_cons]

theorem convertItems_ok {nodes : List YyjsonValue} {values : List Value}
    (h : convertItems depth nodes = .ok values) :
    (∀ value ∈ values, ∃ node ∈ nodes, convertYyjsonValue depth node = .ok value) ∧
      ∀ node ∈ nodes, ∃ value, convertYyjsonValue depth node = .ok value := by
  induction nodes generalizing values with
  | nil =>
    cases h
    simp
  | cons node nodes ih =>
    rw [convertItems] at h
    obtain ⟨value, hvalue, h⟩ := bind_eq_ok h
    obtain ⟨rest, hrest, h⟩ := bind_eq_ok h
    cases h
    refine ⟨forall_mem_cons.mpr ⟨⟨node, mem_cons_self, hvalue⟩, ?_⟩,
      forall_mem_cons.mpr ⟨⟨value, hvalue⟩, (ih hrest).2⟩⟩
    intro other hother
    obtain ⟨node', hnode', hconvert⟩ := (ih hrest).1 other hother
    exact ⟨node', mem_cons_of_mem _ hnode', hconvert⟩

theorem convertMembers_ok {seenKeys : List Bytes} {nodes : List (Bytes × YyjsonValue)}
    {members : Object} (h : convertMembers depth seenKeys nodes = .ok members) :
    members.length = nodes.length ∧ (members.map Prod.fst).Nodup ∧
      (∀ member ∈ members, member.1 ∉ seenKeys) ∧
      (∀ member ∈ members, ∃ node ∈ nodes, node.1 = member.1 ∧
        convertYyjsonValue depth node.2 = .ok member.2) ∧
      ∀ node ∈ nodes, ∃ value, convertYyjsonValue depth node.2 = .ok value := by
  induction nodes generalizing seenKeys members with
  | nil =>
    cases h
    simp
  | cons node nodes ih =>
    obtain ⟨key, node⟩ := node
    rw [convertMembers] at h
    rcases hseen : seenKeys.contains key <;> rw [hseen] at h
    · obtain ⟨value, hvalue, h⟩ := bind_eq_ok h
      obtain ⟨rest, hrest, h⟩ := bind_eq_ok h
      cases h
      obtain ⟨hlength, hnodup, hfresh, hnodes, hall⟩ := ih hrest
      have hkey : key ∉ rest.map Prod.fst := by
        intro hmem
        obtain ⟨member, hmember, rfl⟩ := mem_map.mp hmem
        exact hfresh member hmember mem_cons_self
      refine ⟨by rw [length_cons, hlength, length_cons],
        nodup_cons.mpr ⟨hkey, hnodup⟩, forall_mem_cons.mpr ⟨by simpa using hseen, ?_⟩,
        forall_mem_cons.mpr ⟨⟨_, mem_cons_self, rfl, hvalue⟩, ?_⟩,
        forall_mem_cons.mpr ⟨⟨value, hvalue⟩, hall⟩⟩
      · exact fun member hmember hmem => hfresh member hmember (mem_cons_of_mem _ hmem)
      · intro member hmember
        obtain ⟨node', hnode', hconvert⟩ := hnodes member hmember
        exact ⟨node', mem_cons_of_mem _ hnode', hconvert⟩
    · cases h

theorem convertYyjsonValue_array_ok {nodes : List YyjsonValue}
    (h : convertYyjsonValue depth (.array nodes) = .ok value) :
    depth ≤ maxDepth ∧ ∃ items, value = .array items ∧
      convertItems (depth + 1) nodes = .ok items := by
  rw [convertYyjsonValue.eq_def] at h
  split_ifs at h with hdepth
  obtain ⟨items, hitems, h⟩ := bind_eq_ok h
  cases h
  exact ⟨by omega, items, rfl, hitems⟩

theorem convertYyjsonValue_object_ok {nodes : List (Bytes × YyjsonValue)}
    (h : convertYyjsonValue depth (.object nodes) = .ok value) :
    depth ≤ maxDepth ∧ nodes.length ≤ maxObjectMembers ∧ ∃ members, value = .object members ∧
      convertMembers (depth + 1) [] nodes = .ok members := by
  rw [convertYyjsonValue.eq_def] at h
  split_ifs at h with hdepth
  dsimp only at h
  split_ifs at h with hwidth
  · cases h
  · obtain ⟨members, hmembers, h⟩ := bind_eq_ok h
    cases h
    exact ⟨by omega, by omega, members, rfl, hmembers⟩

theorem admissible_of_convertYyjsonValue {json : Json} (hjson : WellFormed utf8IsValid json)
    (h : convertYyjsonValue depth (yyjsonNode json) = .ok value) : Admissible depth value := by
  induction hjson generalizing depth value with
  | null | boolean | string =>
    rw [yyjsonNode, convertYyjsonValue.eq_def] at h
    split_ifs at h with hdepth
    cases h
    constructor
    · omega
    all_goals assumption
  | number =>
    rw [yyjsonNode, convertYyjsonValue.eq_def] at h
    split_ifs at h with hdepth
    obtain ⟨number, rfl, -, hmin, hmax⟩ := rawNumberAsInt64_eq_ok_iff.mp h
    exact .integer (by omega) hmin hmax
  | array _ ih =>
    rw [yyjsonNode, yyjsonNodes_eq] at h
    obtain ⟨hdepth, items, rfl, hitems⟩ := convertYyjsonValue_array_ok h
    refine .array hdepth fun item hitem => ?_
    obtain ⟨node, hnode, hconvert⟩ := (convertItems_ok hitems).1 item hitem
    obtain ⟨source, hsource, rfl⟩ := mem_map.mp hnode
    exact ih source hsource hconvert
  | object hkeys _ ih =>
    rw [yyjsonNode, yyjsonMemberNodes_eq] at h
    obtain ⟨hdepth, hwidth, members, rfl, hmembers⟩ := convertYyjsonValue_object_ok h
    obtain ⟨hlength, hnodup, -, hnodes, -⟩ := convertMembers_ok hmembers
    refine .object hdepth (by omega) hnodup (fun member hmember => ?_) fun member hmember => ?_
    all_goals
      obtain ⟨node, hnode, hkey, hconvert⟩ := hnodes member hmember
      obtain ⟨source, hsource, rfl⟩ := mem_map.mp hnode
    · exact hkey ▸ hkeys source hsource
    · exact ih source hsource hconvert

theorem convertItems_jsonItems {items : List Value}
    (h : ∀ item ∈ items, convertYyjsonValue depth (yyjsonNode (jsonOf item)) = .ok item) :
    convertItems depth (yyjsonNodes (jsonItems items)) = .ok items := by
  induction items with
  | nil => rfl
  | cons item items ih =>
    obtain ⟨hitem, hitems⟩ := forall_mem_cons.mp h
    rw [jsonItems, yyjsonNodes, convertItems, hitem, ih hitems]
    rfl

theorem convertMembers_jsonMembers {members : Object} (seenKeys : List Bytes)
    (hnodup : (members.map Prod.fst).Nodup) (hfresh : ∀ member ∈ members, member.1 ∉ seenKeys)
    (h : ∀ member ∈ members,
      convertYyjsonValue depth (yyjsonNode (jsonOf member.2)) = .ok member.2) :
    convertMembers depth seenKeys (yyjsonMemberNodes (jsonMembers members)) = .ok members := by
  induction members generalizing seenKeys with
  | nil => rfl
  | cons member members ih =>
    obtain ⟨key, value⟩ := member
    obtain ⟨hkey, hnodup⟩ := nodup_cons.mp hnodup
    obtain ⟨hseen, hfresh⟩ := forall_mem_cons.mp hfresh
    obtain ⟨hvalue, hvalues⟩ := forall_mem_cons.mp h
    have hcontains : seenKeys.contains key = false := by simpa using hseen
    have hrest := ih (key :: seenKeys) hnodup (fun member hmember hmem => by
      rcases mem_cons.mp hmem with heq | hmem
      · exact hkey (mem_map.mpr ⟨member, hmember, heq⟩)
      · exact hfresh member hmember hmem) hvalues
    rw [jsonMembers, yyjsonMemberNodes, convertMembers, hcontains, hvalue, hrest]
    rfl

theorem convertYyjsonValue_jsonOf (h : Admissible depth value) :
    convertYyjsonValue depth (yyjsonNode (jsonOf value)) = .ok value := by
  induction h with
  | null hdepth | boolean hdepth | string hdepth =>
    rw [convertYyjsonValue.eq_def, if_neg (by omega), jsonOf, yyjsonNode]
  | integer hdepth hmin hmax =>
    rw [convertYyjsonValue.eq_def, if_neg (by omega), jsonOf, yyjsonNode]
    exact rawNumberAsInt64_eq_ok_iff.mpr ⟨_, rfl, rfl, hmin, hmax⟩
  | array hdepth _ ih =>
    rw [convertYyjsonValue.eq_def, if_neg (by omega), jsonOf, yyjsonNode]
    dsimp only
    rw [convertItems_jsonItems ih]
    rfl
  | object hdepth hwidth hnodup hkeys hvalues ih =>
    rw [convertYyjsonValue.eq_def, if_neg (by omega), jsonOf, yyjsonNode]
    dsimp only
    rw [yyjsonMemberNodes_eq, jsonMembers_eq, length_map, length_map,
      if_neg (by omega), ← jsonMembers_eq, ← yyjsonMemberNodes_eq,
      convertMembers_jsonMembers [] hnodup (by simp) ih]
    rfl

theorem admissible_of_convertYyjsonValue_jsonOf (hform : HasCanonicalForm value) {output : Value}
    (h : convertYyjsonValue depth (yyjsonNode (jsonOf (sortedValue value))) = .ok output) :
    Admissible depth value := by
  induction hform generalizing depth output with
  | null | boolean | string =>
    rw [convertYyjsonValue.eq_def] at h
    split_ifs at h with hdepth
    constructor
    · omega
    all_goals assumption
  | integer value =>
    rw [convertYyjsonValue.eq_def] at h
    split_ifs at h with hdepth
    change rawNumberAsInt64 (utf8 (toString value.toInt)) = _ at h
    obtain ⟨number, -, htoken, hmin, hmax⟩ := rawNumberAsInt64_eq_ok_iff.mp h
    have hsame := congrArg fromChars htoken
    rw [fromChars_toString, fromChars_toString] at hsame
    cases hsame
    exact .integer (by omega) hmin hmax
  | array _ ih =>
    rw [sortedValue, sortedItems_eq, jsonOf, jsonItems_eq, yyjsonNode, yyjsonNodes_eq] at h
    obtain ⟨hdepth, items, rfl, hitems⟩ := convertYyjsonValue_array_ok h
    simp only [map_map] at hitems
    refine .array hdepth fun item hitem => ?_
    obtain ⟨output, hconvert⟩ := (convertItems_ok hitems).2 _ (mem_map_of_mem hitem)
    exact ih item hitem hconvert
  | @object members hnodup hkeys _ ih =>
    rw [sortedValue, jsonOf, jsonMembers_eq, yyjsonNode, yyjsonMemberNodes_eq] at h
    obtain ⟨hdepth, hwidth, outputs, rfl, hmembers⟩ := convertYyjsonValue_object_ok h
    refine .object hdepth ?_ hnodup hkeys fun member hmember => ?_
    · simpa [(sortByKey_perm _).length_eq, sortedMembers_eq] using hwidth
    · have hsorted : (member.1, sortedValue member.2) ∈ sortByKey (sortedMembers members) := by
        rw [mem_sortByKey, sortedMembers_eq]
        exact mem_map_of_mem hmember
      obtain ⟨output, hconvert⟩ := (convertMembers_ok hmembers).2.2.2.2 _
        (mem_map_of_mem (mem_map_of_mem hsorted))
      exact ih member hmember hconvert

end Conversion

section Utf8

def utf8Step : Option Utf8Sequence → UInt8 → Option (Option Utf8Sequence)
  | none, first =>
    if first ≤ 0x7F then some none
    else if first &&& 0xE0 = 0xC0 then some (some ⟨1, 0x80, (first &&& 0x1F).toUInt32⟩)
    else if first &&& 0xF0 = 0xE0 then some (some ⟨2, 0x800, (first &&& 0x0F).toUInt32⟩)
    else if first &&& 0xF8 = 0xF0 then some (some ⟨3, 0x10000, (first &&& 0x07).toUInt32⟩)
    else none
  | some sequence, next =>
    let codepoint := (sequence.codepoint <<< 6) ||| (next &&& 0x3F).toUInt32
    if next &&& 0xC0 ≠ 0x80 then none
    else if sequence.remaining ≤ 1 then
      if codepointIsValid sequence.minCodepoint codepoint then some none else none
    else some (some ⟨sequence.remaining - 1, sequence.minCodepoint, codepoint⟩)

theorem utf8Scan_cons_iff {next : UInt8} {rest : Bytes} : utf8Scan state (next :: rest) = true ↔
      ∃ state', utf8Step state next = some state' ∧ utf8Scan state' rest = true := by
  rcases state with - | sequence
  · rw [utf8Scan, utf8Step]
    split_ifs <;> simp
  · rw [utf8Scan, utf8Step]
    split_ifs <;> simp_all

theorem utf8Scan_append {first second : Bytes} (hfirst : utf8Scan state first = true)
    (hsecond : utf8IsValid second = true) : utf8Scan state (first ++ second) = true := by
  induction first generalizing state with
  | nil =>
    rcases state with - | sequence
    · exact hsecond
    · cases hfirst
  | cons next first ih =>
    obtain ⟨state', hstep, hscan⟩ := utf8Scan_cons_iff.mp hfirst
    exact utf8Scan_cons_iff.mpr ⟨state', hstep, ih hscan⟩

theorem utf8IsValid_ascii {text : Bytes} (htext : ∀ character ∈ text, character ≤ 0x7F) :
    utf8IsValid text = true := by
  induction text with
  | nil => rfl
  | cons first text ih =>
    obtain ⟨hfirst, htext⟩ := forall_mem_cons.mp htext
    exact utf8Scan_cons_iff.mpr ⟨none, if_pos hfirst, ih htext⟩

theorem escapedByte_spec (character : UInt8) : (character &&& 0xC0 = 0x80 → ¬ character ≤ 0x7F) ∧
      (¬ character ≤ 0x7F → escapedByte character = [character]) ∧
      (character ≤ 0x7F → (escapedByte character).all (· ≤ 0x7F)) := by
  revert character
  apply forall_byte
  decide +kernel

theorem utf8Scan_escaped {text : Bytes} (h : utf8Scan state text = true) :
    utf8Scan state (text.flatMap escapedByte) = true := by
  induction text generalizing state with
  | nil => exact h
  | cons character text ih =>
    obtain ⟨state', hstep, hscan⟩ := utf8Scan_cons_iff.mp h
    obtain ⟨hcontinuation, hplain, hascii⟩ := escapedByte_spec character
    rw [flatMap_cons]
    rcases Decidable.em (character ≤ 0x7F) with hle | hgt
    · -- an ASCII byte stands between two sequences
      rcases state with - | sequence
      · rw [utf8Step, if_pos hle] at hstep
        cases hstep
        exact utf8Scan_append (utf8IsValid_ascii (by simpa using hascii hle)) (ih hscan)
      · rw [utf8Step, if_pos fun hnext => hcontinuation hnext hle] at hstep
        cases hstep
    · rw [hplain hgt]
      exact utf8Scan_cons_iff.mpr ⟨state', hstep, ih hscan⟩

theorem utf8IsValid_orderedText (h : HasCanonicalForm value) :
    utf8IsValid (orderedText value) = true :=
  print_valid ⟨utf8IsValid_ascii, utf8Scan_append, utf8Scan_escaped⟩ (wellFormed_jsonOf h)

theorem inputIsBlank_orderedText (h : HasCanonicalForm value) :
    inputIsBlank (orderedText value) = false := by
  obtain ⟨first, rest, htext, hfirst⟩ := print_starts escapedByte (wellFormed_jsonOf h)
  have hspace := (startsValue_spec hfirst).1
  rw [orderedText, htext, inputIsBlank, all_cons]
  simp_all [isSpace, byte]

end Utf8

section Parser

theorem parseLossless_eq_ok_iff (hyyjson : ReadsJson yyjson) {input : Bytes} :
    parseLossless yyjson input = .ok value ↔ inputIsBlank input = false ∧ utf8IsValid input = true ∧
        ∃ json, readJson utf8IsValid input = some json ∧
          convertYyjsonValue 0 (yyjsonNode json) = .ok value := by
  constructor
  · fun_cases parseLossless yyjson input <;> intro h
    case case5 hblank hvalid document hread hlength =>
      obtain ⟨root, bytesRead⟩ := document
      obtain rfl : bytesRead = input.length := not_not.mp hlength
      have hutf8 : utf8IsValid input = true := by simpa using hvalid
      obtain ⟨json, hjson, rfl⟩ := (hyyjson input root hutf8).mp hread
      exact ⟨eq_false_of_ne_true hblank, hutf8, json, hjson, h⟩
    all_goals cases h
  · rintro ⟨hblank, hutf8, json, hjson, hconvert⟩
    have hread := (hyyjson input (yyjsonNode json) hutf8).mpr ⟨json, hjson, rfl⟩
    rw [parseLossless, hblank, hutf8, hread]
    simpa using hconvert

theorem admissible_of_parseLossless (hyyjson : ReadsJson yyjson) {input : Bytes}
    (h : parseLossless yyjson input = .ok value) : Admissible 0 value := by
  obtain ⟨-, -, json, hjson, hconvert⟩ := (parseLossless_eq_ok_iff hyyjson).mp h
  exact admissible_of_convertYyjsonValue (readJson_wellFormed hjson) hconvert

theorem parseLossless_orderedText (hyyjson : ReadsJson yyjson) (hvalue : Admissible 0 value) :
    parseLossless yyjson (orderedText value) = .ok value := by
  have hform := hvalue.hasCanonicalForm
  exact (parseLossless_eq_ok_iff hyyjson).mpr ⟨inputIsBlank_orderedText hform,
    utf8IsValid_orderedText hform, jsonOf value, readJson_orderedText hform,
    convertYyjsonValue_jsonOf hvalue⟩

/-- Canonicalisation of accepted input is total, keeps the value up to the order
of members, and is idempotent. -/
theorem canonicalisation_round_trips {yyjson : Yyjson} (hyyjson : ReadsJson yyjson) {input : Bytes}
    {value : Value} (h : parseLossless yyjson input = .ok value) :
    ∃ text, serializeCanonicalStrict value = .ok text ∧
      ∃ value', parseLossless yyjson text = .ok value' ∧ SameUpToOrder value value' ∧
        serializeCanonicalStrict value' = .ok text := by
  have hadmissible := admissible_of_parseLossless hyyjson h
  have hform := hadmissible.hasCanonicalForm
  have hsorted := sortedValue_idempotent value
  refine ⟨orderedText (sortedValue value), serializeCanonicalStrict_eq_ok_iff.mpr ⟨hform, rfl⟩,
    sortedValue value, parseLossless_orderedText hyyjson hadmissible.sortedValue,
    sameUpToOrder_of_sortedValue_eq hsorted.symm, serializeCanonicalStrict_eq_ok_iff.mpr
      ⟨hasCanonicalForm_sortedValue hform, congrArg orderedText hsorted⟩⟩

theorem spaced_document_round_trips :
    ∃ text, serializeCanonicalStrict (.object [("b", .string "\n\u00e9"),
        ("a", .array [.integer (-1), .null])]) = .ok text ∧
      ∃ value', parseLossless grammarReader text = .ok value' ∧
        SameUpToOrder (.object [("b", .string "\n\u00e9"), ("a", .array [.integer (-1), .null])])
          value' ∧
        serializeCanonicalStrict value' = .ok text :=
  canonicalisation_round_trips readsJson_grammarReader
    (show parseLossless grammarReader
      (utf8 "\x7b \"b\": \"\\n\\u00e9\", \"a\" :[-1, null] \x7d") = _ from rfl)

/-- The strict serializer leaves integers, depth and width unchecked. -/
theorem canonical_text_is_accepted_iff {yyjson : Yyjson} (hyyjson : ReadsJson yyjson)
    {value : Value} :
    (∀ text, serializeCanonicalStrict value = .ok text →
      ∃ output, parseLossless yyjson text = .ok output) ↔
      (HasCanonicalForm value → Admissible 0 value) := by
  constructor
  · intro haccepted hform
    obtain ⟨output, hparse⟩ := haccepted _ (serializeCanonicalStrict_eq_ok_iff.mpr ⟨hform, rfl⟩)
    obtain ⟨-, -, json, hjson, hconvert⟩ := (parseLossless_eq_ok_iff hyyjson).mp hparse
    cases (readJson_orderedText (hasCanonicalForm_sortedValue hform)).symm.trans hjson
    exact admissible_of_convertYyjsonValue_jsonOf hform hconvert
  · intro hadmissible text htext
    obtain ⟨hform, rfl⟩ := serializeCanonicalStrict_eq_ok_iff.mp htext
    exact ⟨_, parseLossless_orderedText hyyjson (hadmissible hform).sortedValue⟩

def roomName : Value := .object [("name", .string "caf\u00e9"), ("depth", .integer (-7))]

theorem roomName_admissible : Admissible 0 roomName := by
  refine .object (by decide) (by decide) (by decide) (by decide) ?_
  simp only [List.forall_mem_cons, List.not_mem_nil, IsEmpty.forall_iff, implies_true, and_true]
  exact ⟨.string (by decide) (by decide +kernel), .integer (by decide) (by decide) (by decide)⟩

theorem canonical_roomName_is_accepted :
    ∃ output, parseLossless grammarReader "\x7b\"depth\":-7,\"name\":\"caf\u00e9\"\x7d" =
      .ok output :=
  (canonical_text_is_accepted_iff readsJson_grammarReader).mpr (fun _ => roomName_admissible) _ rfl

/-- The least integer that is too large for canonical JSON is serialized for
signing, and the text is refused by every parser. -/
theorem unsafe_integer_is_serialized :
    serializeCanonicalStrict (.integer 9007199254740992) = .ok (utf8 "9007199254740992") ∧
      parseLossless grammarReader "9007199254740992" = .error .integerOutOfRange :=
  ⟨rfl, rfl⟩

end Parser

end Merovingian.CanonicalRoundTrip
