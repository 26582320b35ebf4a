import PlatformSdk.Geometry
import PlatformSdk.Machine.Attempt

/-!
# JSON documents

The part of `nlohmann::json` that the program uses on documents it only reads.
`operator[]` on a document that may not change has no answer for a member that
is not there: the source asserts that the member exists and then reads it.
-/

namespace Airmap

open Machine (Attempt)

/-- `nlohmann::json`, by `value_t`. -/
inductive Json where
  | null
  | object (members : List (String × Json))
  | array (elements : List Json)
  | string (value : String)
  | boolean (value : Bool)
  | numberInteger (value : ℤ)
  | numberUnsigned (value : ℕ)
  | numberFloat (value : Double)

/-- `json::parse`, which throws on a text that is no document, and `json::dump`. -/
structure Json.Text where
  parse : String → Except String Json
  dump : Json → String

namespace Json

def typeName : Json → String
  | .null => "null"
  | .object _ => "object"
  | .array _ => "array"
  | .string _ => "string"
  | .boolean _ => "boolean"
  | .numberInteger _ | .numberUnsigned _ | .numberFloat _ => "number"

/-- The explanatory string of a JSON exception. -/
def exceptionWhat (ename : String) (id : ℕ) (what : String) : String :=
  "[json.exception." ++ ename ++ "." ++ toString id ++ "] " ++ what

/-- `find`, where `none` is the end of the document. -/
def find (key : String) : Json → Option Json
  | .object members => members.lookup key
  | _ => none

def count (key : String) (j : Json) : ℕ :=
  if (j.find key).isSome then 1 else 0

/-- `at`. -/
def atKey (key : String) : Json → Attempt Json
  | .object members =>
      match members.lookup key with
      | some value => .returns value
      | none => .throws
          (exceptionWhat "out_of_range" 403 ("key '" ++ key ++ "' not found"))
  | j => .throws
      (exceptionWhat "type_error" 304 ("cannot use at() with " ++ j.typeName))

/-- `operator[]` on a constant document. -/
def index (key : String) : Json → Attempt Json
  | .object members =>
      match members.lookup key with
      | some value => .returns value
      | none => .undefined
  | j => .throws
      (exceptionWhat "type_error" 305 ("cannot use operator[] with " ++ j.typeName))

/-- `operator[]` on a document that may change, where a member that is not there becomes an
empty one. -/
def member (key : String) : Json → Attempt Json
  | .null => .returns .null
  | .object members => .returns ((members.lookup key).getD .null)
  | j => .throws
      (exceptionWhat "type_error" 305 ("cannot use operator[] with " ++ j.typeName))

/-- `get<std::string>`. -/
def getString : Json → Attempt String
  | .string value => .returns value
  | j => .throws
      (exceptionWhat "type_error" 302 ("type must be string, but is " ++ j.typeName))

/-- `operator==` with a string. -/
def eqString (value : String) : Json → Bool
  | .string value' => value' == value
  | _ => false

/-- The values that a loop over a document sees; a document that is neither empty
nor a container is its own and only element. -/
def elements : Json → List Json
  | .null => []
  | .object members => members.map Prod.snd
  | .array elements => elements
  | j => [j]

def size (j : Json) : ℕ := j.elements.length

/-- `at` with an index. -/
def atIndex (i : ℕ) : Json → Attempt Json
  | .array elements =>
      match elements[i]? with
      | some value => .returns value
      | none => .throws (exceptionWhat "out_of_range" 401
          ("array index " ++ toString i ++ " is out of range"))
  | j => .throws
      (exceptionWhat "type_error" 304 ("cannot use at() with " ++ j.typeName))

/-- What `push_back` of each of the values makes of an empty document. -/
def pushBackAll : List Json → Json
  | [] => .null
  | value :: values => .array (value :: values)

/-- A document with those of the members that are there. -/
def ofMembers (members : List (String × Option Json)) : Json :=
  .object (members.filterMap fun (key, value) => value.map (Prod.mk key))

/-- The document has the member, and the member is not empty. -/
def Gives (key : String) (j : Json) : Prop :=
  match j.find key with
  | none | some .null => False
  | some _ => True

instance (key : String) (j : Json) : Decidable (j.Gives key) :=
  match h : j.find key with
  | none | some .null => .isFalse (by simp [Gives, h])
  | some (.object _) | some (.array _) | some (.string _) | some (.boolean _)
  | some (.numberInteger _) | some (.numberUnsigned _) | some (.numberFloat _) =>
      .isTrue (by simp [Gives, h])

/-- `get<float>`. -/
def getFloat (narrowing : Double.Narrowing) : Json → Attempt Double
  | .numberUnsigned value => .returns (narrowing.toFloat (.finite value))
  | .numberInteger value => .returns (narrowing.toFloat (.finite value))
  | .numberFloat value => .returns (narrowing.toFloat value)
  | .boolean value => .returns (narrowing.toFloat (.finite (if value then 1 else 0)))
  | j => .throws
      (exceptionWhat "type_error" 302 ("type must be number, but is " ++ j.typeName))

/-- `get<std::uint64_t>`; a floating point number outside of the range has no
value of this type. -/
def getUint64 : Json → Attempt UInt64
  | .numberUnsigned value => .returns (.ofNat value)
  | .numberInteger value => .returns (Int64.ofInt value).toUInt64
  | .numberFloat (.finite value) =>
      let truncated := value.num.tdiv value.den
      if 0 ≤ truncated ∧ truncated < 2 ^ 64 then .returns (.ofNat truncated.toNat)
      else .undefined
  | .numberFloat _ => .undefined
  | j => .throws
      (exceptionWhat "type_error" 302 ("type must be number, but is " ++ j.typeName))

@[simp] theorem elements_pushBackAll (values : List Json) :
    (pushBackAll values).elements = values := by
  cases values with
  | nil => rfl
  | cons value values => rfl

theorem find_ofMembers {members : List (String × Option Json)}
    (hdistinct : (members.map Prod.fst).Nodup) (key : String) :
    (ofMembers members).find key = (members.lookup key).join := by
  simp only [ofMembers, find]
  induction members with
  | nil => rfl
  | cons member members ih =>
      obtain ⟨name, value⟩ := member
      rw [List.map_cons, List.nodup_cons] at hdistinct
      obtain ⟨hfresh, hdistinct⟩ := hdistinct
      have hrest := ih hdistinct
      cases value with
      | some value =>
          simp only [List.filterMap_cons, Option.map_some, List.lookup_cons, hrest]
          split
          · rfl
          · rfl
      | none =>
          simp only [List.filterMap_cons, Option.map_none, List.lookup_cons, hrest]
          split
          · next heq =>
              have hkey : key ∉ members.map Prod.fst := by
                rw [beq_iff_eq.mp heq]
                exact hfresh
              have hnone : members.lookup key = none := by
                rw [List.lookup_eq_none_iff]
                intro member hmem
                rw [bne_iff_ne]
                rintro rfl
                exact hkey (List.mem_map_of_mem hmem)
              rw [hnone]
              rfl
          · rfl

theorem sizeOf_lt_of_mem_members {members : List (String × Json)} {key : String}
    {value : Json} (h : (key, value) ∈ members) :
    sizeOf value < sizeOf (object members) := by
  have hmember := List.sizeOf_lt_of_mem h
  simp only [Json.object.sizeOf_spec, Prod.mk.sizeOf_spec] at hmember ⊢
  omega

theorem sizeOf_le_of_mem_elements {j value : Json} (h : value ∈ j.elements) :
    sizeOf value ≤ sizeOf j := by
  cases j with
  | null => cases h
  | object members =>
      obtain ⟨⟨key, value'⟩, hmem, rfl⟩ := List.mem_map.mp h
      exact Nat.le_of_lt (sizeOf_lt_of_mem_members hmem)
  | array elements =>
      have helement : sizeOf value < sizeOf elements := List.sizeOf_lt_of_mem h
      simp only [Json.array.sizeOf_spec]
      omega
  | _ => rw [List.mem_singleton.mp h]

theorem sizeOf_lt_of_index {key : String} {j value : Json}
    (h : j.index key = .returns value) : sizeOf value < sizeOf j := by
  cases j with
  | object members =>
      simp only [index] at h
      split at h
      · next value' hlookup =>
          cases h
          obtain ⟨before, after, heq, -⟩ := List.lookup_eq_some_iff.mp hlookup
          have hmem : (key, value) ∈ before ++ (key, value) :: after := by simp
          rw [heq]
          exact sizeOf_lt_of_mem_members hmem
      · cases h
  | _ => cases h

/-- `operator[]` on a constant document, with the fact that a member is smaller
than its document. -/
def indexBelow (key : String) (j : Json) :
    Attempt { value : Json // sizeOf value < sizeOf j } :=
  match h : j.index key with
  | .returns value => .returns ⟨value, sizeOf_lt_of_index h⟩
  | .throws what => .throws what
  | .undefined => .undefined

theorem indexBelow_bind {α : Type} (key : String) (j : Json) (f : Json → Attempt α) :
    (j.indexBelow key >>= fun value => f value.1) = j.index key >>= f := by
  simp only [indexBelow]
  split
  · next h => simp [h]
  · next h => simp [h]
  · next h => simp [h]

theorem count_eq_zero_iff {key : String} {j : Json} :
    j.count key = 0 ↔ j.find key = none := by
  simp [count]

theorem eqString_iff {value : String} {j : Json} :
    j.eqString value = true ↔ j = .string value := by
  cases j <;> simp [eqString]

theorem atKey_ne_undefined (key : String) (j : Json) :
    j.atKey key ≠ .undefined := by
  unfold atKey
  split
  · split <;> exact (nomatch ·)
  · exact (nomatch ·)

theorem getString_ne_undefined (j : Json) : j.getString ≠ .undefined := by
  unfold getString
  split <;> exact (nomatch ·)

/-- A document that has some member is an object. -/
theorem index_of_find {key other : String} {j value : Json}
    (h : j.find other = some value) :
    j.index key = match j.find key with
      | some value => .returns value
      | none => .undefined := by
  cases j with
  | object members => rfl
  | _ => cases h

end Json
end Airmap
