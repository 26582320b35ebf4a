import PlatformSdk.Geometry
import PlatformSdk.Machine.Variant
import PlatformSdk.Outcome

/-!
# Values of all types

`Error::Value` with the types of value that the program itself never puts into an error.
-/

namespace Airmap

open Machine

/-- `Error::Value::Type`. -/
inductive Error.Kind where
  | undefined
  | boolean
  | integer
  | floatingPoint
  | string
  | blob
  | dictionary
  | vector
  deriving DecidableEq, Repr

/-- `Error::Value`: the member of its details that has a value.  A dictionary has its
entries in the order of their keys. -/
inductive Error.Variant where
  | undefined
  | boolean (value : Bool)
  | integer (value : Int64)
  | floatingPoint (value : Double)
  | string (value : String)
  | blob (value : List UInt8)
  | dictionary (value : List (Error.Variant × Error.Variant))
  | vector (value : List Error.Variant)

namespace Error.Variant

/-- `Error::Value::type`. -/
def kind : Variant → Kind
  | .undefined => .undefined
  | .boolean _ => .boolean
  | .integer _ => .integer
  | .floatingPoint _ => .floatingPoint
  | .string _ => .string
  | .blob _ => .blob
  | .dictionary _ => .dictionary
  | .vector _ => .vector

mutual

/-- What the copy constructor makes of a value. -/
def copy : Variant → Variant
  | .undefined => .undefined
  | .boolean value => .boolean value
  | .integer value => .integer value
  | .floatingPoint value => .floatingPoint value
  | .string value => .string value
  | .blob value => .blob value
  | .dictionary value => .dictionary (copyEntries value)
  | .vector value => .vector (copyAll value)

def copyEntries : List (Variant × Variant) → List (Variant × Variant)
  | [] => []
  | (key, value) :: entries => (key.copy, value.copy) :: copyEntries entries

def copyAll : List Variant → List Variant
  | [] => []
  | value :: values => value.copy :: copyAll values

end

mutual

theorem copy_eq : ∀ value : Variant, value.copy = value
  | .undefined | .boolean _ | .integer _ | .floatingPoint _ | .string _ | .blob _ => by
      rw [copy]
  | .dictionary value => by rw [copy, copyEntries_eq value]
  | .vector value => by rw [copy, copyAll_eq value]

theorem copyEntries_eq : ∀ entries : List (Variant × Variant), copyEntries entries = entries
  | [] => by rw [copyEntries]
  | (key, value) :: entries => by
      rw [copyEntries, copy_eq key, copy_eq value, copyEntries_eq entries]

theorem copyAll_eq : ∀ values : List Variant, copyAll values = values
  | [] => by rw [copyAll]
  | value :: values => by rw [copyAll, copy_eq value, copyAll_eq values]

end

end Error.Variant
end Airmap
