import PlatformSdk.Error.Variant

/-!
# Values of errors as objects

The union of `Error::Value` and the functions that put a value into it.
-/

namespace Airmap.Error.Variant

open Machine

/-- `Error::Value`, with its `type_` and its `details_`. -/
abbrev Object := Machine.Object Kind Variant

namespace Object

/-! ## The details -/

def boolean (o : Object) : Attempt Bool :=
  match o.member with
  | .boolean value => .returns value
  | _ => .undefined

def integer (o : Object) : Attempt Int64 :=
  match o.member with
  | .integer value => .returns value
  | _ => .undefined

def floatingPoint (o : Object) : Attempt Double :=
  match o.member with
  | .floatingPoint value => .returns value
  | _ => .undefined

def string (o : Object) : Attempt String :=
  match o.member with
  | .string value => .returns value
  | _ => .undefined

def blob (o : Object) : Attempt (List UInt8) :=
  match o.member with
  | .blob value => .returns value
  | _ => .undefined

def dictionary (o : Object) : Attempt (List (Variant × Variant)) :=
  match o.member with
  | .dictionary value => .returns value
  | _ => .undefined

def vector (o : Object) : Attempt (List Variant) :=
  match o.member with
  | .vector value => .returns value
  | _ => .undefined

/-! ## Constructing a value -/

def fresh : Object where
  tag := .undefined
  member := .undefined

/-- What the functions `construct` for the members have in common. -/
def place (value : Variant) (o : Object) : Object :=
  { o with tag := value.kind, member := value }

def constructBoolean (value : Bool) : Object → Object := place (.boolean value)

def constructInteger (value : Int64) : Object → Object := place (.integer value)

def constructFloatingPoint (value : Double) : Object → Object := place (.floatingPoint value)

def constructString (value : String) : Object → Object := place (.string value)

def constructBlob (value : List UInt8) : Object → Object := place (.blob value)

def constructDictionary (value : List (Variant × Variant)) : Object → Object :=
  place (.dictionary (copyEntries value))

def constructVector (value : List Variant) : Object → Object :=
  place (.vector (copyAll value))

/-- The constructors that are given a value, and the one that is given nothing. -/
def init : Variant → Object
  | .undefined => fresh
  | .boolean value => fresh.constructBoolean value
  | .integer value => fresh.constructInteger value
  | .floatingPoint value => fresh.constructFloatingPoint value
  | .string value => fresh.constructString value
  | .blob value => fresh.constructBlob value
  | .dictionary value => fresh.constructDictionary value
  | .vector value => fresh.constructVector value

/-- `construct` for another object, which may be the object itself.  The assertion at the
end is about a literal and holds. -/
def construct (o value : Object) : Attempt Object :=
  match value.tag with
  | .boolean => do return constructBoolean (← boolean value) o
  | .integer => do return constructInteger (← integer value) o
  | .floatingPoint => do return constructFloatingPoint (← floatingPoint value) o
  | .string => do return constructString (← string value) o
  | .blob => do return constructBlob (← blob value) o
  | .dictionary => do return constructDictionary (← dictionary value) o
  | .vector => do return constructVector (← vector value) o
  | .undefined => .returns o

/-- `destruct`.  It sets the type first, so that it does not destroy anything. -/
def destruct (o : Object) : Attempt Object :=
  let o : Object := { o with tag := .undefined }
  match o.tag with
  | .undefined | .boolean | .integer | .floatingPoint => .returns o
  | .string => o.destroy kind .undefined .string
  | .blob => o.destroy kind .undefined .blob
  | .dictionary => o.destroy kind .undefined .dictionary
  | .vector => o.destroy kind .undefined .vector

theorem destruct_eq (o : Object) : destruct o = .returns { o with tag := .undefined } := rfl

end Object

/-- The class `Error::Value`. -/
def variant : Machine.Variant Kind Variant where
  kind := kind
  empty := .undefined
  fresh := Object.fresh
  init := Object.init
  destruct := Object.destruct
  construct := Object.construct

theorem variant_isLawful : variant.IsLawful := by
  refine .of_cases ?_ rfl ?_ ?_ ?_ ?_ ?_
  · intro value hkind
    cases value with
    | undefined => rfl
    | _ => cases hkind
  · intro value
    cases value with
    | dictionary value =>
        refine ⟨rfl, fun _ => ?_⟩
        change dictionary (copyEntries value) = _
        rw [copyEntries_eq]
    | vector value =>
        refine ⟨rfl, fun _ => ?_⟩
        change vector (copyAll value) = _
        rw [copyAll_eq]
    | _ => exact ⟨rfl, fun _ => rfl⟩
  · intro o _
    exact ⟨_, Object.destruct_eq o, rfl⟩
  · intro value _
    exact ⟨_, Object.destruct_eq _, rfl⟩
  · intro o other htag htag'
    refine ⟨o, ?_, htag⟩
    change Object.construct o other = _
    rw [Object.construct, show other.tag = .undefined from htag']
  · intro o value _ hne
    cases value with
    | undefined => exact absurd rfl hne
    | dictionary value =>
        change Attempt.returns (Machine.Object.mk Kind.dictionary
          (dictionary (copyEntries value))) = _
        rw [copyEntries_eq]
        rfl
    | vector value =>
        change Attempt.returns (Machine.Object.mk Kind.vector (vector (copyAll value))) = _
        rw [copyAll_eq]
        rfl
    | _ => rfl

end Airmap.Error.Variant
