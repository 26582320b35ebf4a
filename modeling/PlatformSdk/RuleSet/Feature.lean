import PlatformSdk.Codec.Json.FlightPlan
import PlatformSdk.Machine.Variant

/-!
# Flight features

The union of `RuleSet::Feature::Value` and the functions that put a value into it, and the
values that a feature accepts.
-/

namespace Airmap

open Machine

namespace RuleSet.Feature

/-- `RuleSet::Feature::Type`. -/
inductive Kind where
  | unknown
  | boolean
  | floatingPoint
  | string
  deriving DecidableEq, Repr

namespace Value

/-- `RuleSet::Feature::Value::type`. -/
def kind : Value → Kind
  | .unknown => .unknown
  | .boolean _ => .boolean
  | .floatingPoint _ => .floatingPoint
  | .string _ => .string

/-! ## Values as objects -/

/-- `RuleSet::Feature::Value`, with its `type_` and its `detail_`. -/
abbrev Object := Machine.Object Kind Value

namespace Object

def boolean (o : Object) : Attempt Bool :=
  match o.member with
  | .boolean value => .returns value
  | _ => .undefined

def floatingPoint (o : Object) : Attempt Double :=
  match o.member with
  | .floatingPoint value => .returns value
  | _ => .undefined

def string (o : Object) : Attempt String :=
  match o.member with
  | .string value => .returns value
  | _ => .undefined

/-- The constructor of the union gives its first member a value. -/
def fresh : Object where
  tag := .unknown
  member := .boolean false

/-- What the functions `construct` for the members have in common. -/
def place (value : Value) (o : Object) : Object :=
  { o with tag := value.kind, member := value }

def constructBoolean (value : Bool) : Object → Object := place (.boolean value)

def constructFloatingPoint (value : Double) : Object → Object := place (.floatingPoint value)

def constructString (value : String) : Object → Object := place (.string value)

/-- The constructors that are given a value, and the one that is given nothing. -/
def init : Value → Object
  | .unknown => fresh
  | .boolean value => fresh.constructBoolean value
  | .floatingPoint value => fresh.constructFloatingPoint value
  | .string value => fresh.constructString value

/-- `destruct`. -/
def destruct (o : Object) : Attempt Object := do
  let o ← match o.tag with
    | .string => o.destroy kind .unknown .string
    | .unknown | .boolean | .floatingPoint => .returns o
  return { o with tag := .unknown }

/-- `construct` for another value, which may be the value itself. -/
def construct (o other : Object) : Attempt Object := do
  let o : Object ← match other.tag with
    | .boolean => do return constructBoolean (← boolean other) o
    | .floatingPoint => do return constructFloatingPoint (← floatingPoint other) o
    | .string => do return constructString (← string other) o
    | .unknown => destruct o
  return { o with tag := other.tag }

end Object

/-- The class `RuleSet::Feature::Value`. -/
def variant : Variant Kind Value where
  kind := kind
  empty := .unknown
  fresh := Object.fresh
  init := Object.init
  destruct := Object.destruct
  construct := Object.construct

theorem destruct_of_unknown {o : Object} (h : o.tag = .unknown) :
    Object.destruct o = .returns { o with tag := .unknown } := by
  rw [Object.destruct, h]
  rfl

theorem variant_isLawful : variant.IsLawful := by
  refine .of_cases ?_ rfl ?_ ?_ ?_ ?_ ?_
  · intro value hkind
    cases value with
    | unknown => rfl
    | _ => cases hkind
  · intro value
    cases value with
    | unknown => exact ⟨rfl, fun hne => absurd rfl hne⟩
    | _ => exact ⟨rfl, fun _ => rfl⟩
  · intro o htag
    exact ⟨_, destruct_of_unknown htag, rfl⟩
  · intro value hne
    cases value with
    | unknown => exact absurd rfl hne
    | _ => exact ⟨_, rfl, rfl⟩
  · intro o other htag htag'
    refine ⟨{ o with tag := .unknown }, ?_, rfl⟩
    change Object.construct o other = _
    rw [Object.construct, show other.tag = .unknown from htag']
    dsimp only
    rw [destruct_of_unknown htag]
    rfl
  · intro o value _ hne
    cases value with
    | unknown => exact absurd rfl hne
    | _ => rfl

/-- `encode(RuleSet::Feature::Value)`, for an object. -/
def Object.encode (o : Object) : Attempt Json :=
  match o.tag with
  | .boolean => do return .boolean (← boolean o)
  | .floatingPoint => do return .numberFloat (← floatingPoint o)
  | .string => do return .string (← string o)
  | .unknown => .returns .null

theorem Object.encode_of_holds {o : Object} {value : Value} (h : variant.Holds o value) :
    Object.encode o = .returns value.encode := by
  by_cases hne : value = .unknown
  · subst hne
    have htag : o.tag = .unknown := h.1
    rw [Object.encode, htag]
    rfl
  · obtain rfl := h.eq_mk hne
    cases value with
    | unknown => exact absurd rfl hne
    | _ => rfl

end Value
end RuleSet.Feature

/-- `RuleSet::Feature`, of which only the type has to do with its values. -/
structure RuleSet.Feature where
  type : RuleSet.Feature.Kind := .unknown

namespace RuleSet.Feature

/-- What the three functions `value` have in common: a value is returned in an
`Optional`, unless the type is not the one that is asked for. -/
def valueOf (f : Feature) (type : Kind) (value : Value) : Attempt (Option Value.Object) :=
  if f.type ≠ type then .returns none
  else do
    let o ← Value.variant.copyConstruct (Value.Object.init value)
    return some o

/-- `value(bool)`. -/
def valueBoolean (f : Feature) (b : Bool) : Attempt (Option Value.Object) :=
  f.valueOf .boolean (.boolean b)

/-- `value(double)`. -/
def valueFloatingPoint (f : Feature) (d : Double) : Attempt (Option Value.Object) :=
  f.valueOf .floatingPoint (.floatingPoint d)

/-- `value(const std::string&)`, which asks for the same type as `value(bool)`. -/
def valueString (f : Feature) (s : String) : Attempt (Option Value.Object) :=
  f.valueOf .boolean (.string s)

/-- A feature of the type gives the value, and no other feature does. -/
theorem valueOf_cases (f : Feature) (type : Kind) (value : Value) :
    (f.type = type ∧ ∃ o, f.valueOf type value = .returns (some o) ∧
      Value.variant.Holds o value) ∨
    (f.type ≠ type ∧ f.valueOf type value = .returns none) := by
  by_cases htype : f.type = type
  · obtain ⟨o, ho, hholds⟩ :=
      Value.variant_isLawful.copyConstruct (Value.variant_isLawful.init value)
    refine Or.inl ⟨htype, o, ?_, hholds⟩
    rw [valueOf, if_neg (not_not_intro htype)]
    change (Value.variant.copyConstruct (Value.variant.init value) >>= _) = _
    rw [ho]
    rfl
  · exact Or.inr ⟨htype, if_pos htype⟩

/-- The function returns something just for a feature of the type of the value: the value,
which is decoded from its encoding. -/
structure Carries (toDouble : ℤ → Double) (f : Feature) (value : Value)
    (result : Attempt (Option Value.Object)) : Prop where
  set_iff : (∃ o, result = .returns (some o)) ↔ f.type = value.kind
  intact : ∀ o, result = .returns (some o) → o.tag = f.type ∧ Value.variant.Holds o value ∧
    ∃ j, Value.Object.encode o = .returns j ∧ Value.decode toDouble j = value

theorem carries_valueOf (toDouble : ℤ → Double) (f : Feature) (value : Value) :
    Carries toDouble f value (f.valueOf value.kind value) := by
  rcases valueOf_cases f value.kind value with ⟨htype, o, ho, hholds⟩ | ⟨htype, hnone⟩
  · refine ⟨⟨fun _ => htype, fun _ => ⟨o, ho⟩⟩, ?_⟩
    intro o' ho'
    obtain rfl : o = o' := by simpa using ho.symm.trans ho'
    exact ⟨hholds.1.trans htype.symm, hholds, value.encode,
      Value.Object.encode_of_holds hholds, Value.decode_encode toDouble value⟩
  · constructor
    · simp [hnone, htype]
    · simp [hnone]

/-- The function for strings does what it should for features that are neither booleans
nor strings: nothing. -/
theorem carries_valueString_iff (toDouble : ℤ → Double) (f : Feature) (s : String) :
    Carries toDouble f (.string s) (f.valueString s) ↔
      f.type ≠ .boolean ∧ f.type ≠ .string := by
  constructor
  · intro h
    have hset := h.set_iff
    rcases valueOf_cases f .boolean (.string s) with ⟨htype, o, ho, -⟩ | ⟨htype, hnone⟩
    · have hstring : f.type = .string := hset.mp ⟨o, ho⟩
      rw [htype] at hstring
      cases hstring
    · refine ⟨htype, fun hstring => ?_⟩
      obtain ⟨o, ho⟩ := hset.mpr hstring
      rw [valueString, hnone] at ho
      cases ho
  · rintro ⟨hboolean, hstring⟩
    have hnone : f.valueString s = .returns none := if_pos hboolean
    constructor
    · simp [hnone, Value.kind, hstring]
    · simp [hnone]

/-- The three functions carry their values. -/
structure CarriesValues (toDouble : ℤ → Double) (f : Feature) (b : Bool) (d : Double)
    (s : String) : Prop where
  boolean : Carries toDouble f (.boolean b) (f.valueBoolean b)
  floatingPoint : Carries toDouble f (.floatingPoint d) (f.valueFloatingPoint d)
  string : Carries toDouble f (.string s) (f.valueString s)

/-- A feature takes values of its type, and keeps them, just when it is neither a boolean
nor a string. -/
theorem carriesValues_iff (toDouble : ℤ → Double) (f : Feature) (b : Bool) (d : Double)
    (s : String) :
    CarriesValues toDouble f b d s ↔ f.type ≠ .boolean ∧ f.type ≠ .string := by
  rw [← carries_valueString_iff toDouble f s]
  constructor
  · intro h
    exact h.string
  · intro hstring
    exact ⟨carries_valueOf toDouble f (.boolean b),
      carries_valueOf toDouble f (.floatingPoint d), hstring⟩

/-- A feature for a string does not take one. -/
theorem string_not_carried :
    ¬ ∀ (toDouble : ℤ → Double) (f : Feature) (b : Bool) (d : ℚ) (s : String),
      CarriesValues toDouble f b (.finite d) s := by
  intro h
  have hset := (h (fun n => .finite n) { type := .string } true 0 "text").string.set_iff
  obtain ⟨o, ho⟩ := hset.mpr rfl
  cases ho

end RuleSet.Feature
end Airmap
