import Mathlib.Data.Int.Notation

/-!
# Errors and outcomes

A `std::string` is modelled by a `String` with one character for each byte.
-/

namespace Airmap

/-- `Error::Value`, with the types of value that the program puts into it. -/
inductive Error.Value where
  | boolean (value : Bool)
  | integer (value : ℤ)
  | string (value : String)
  deriving DecidableEq

/-- `Error`; `values` is a map, without the order of its keys. -/
structure Error where
  message : String
  description : Option String := none
  values : List (Error.Value × Error.Value) := []
  deriving DecidableEq

namespace Error

/-- `Error::description`, the setter. -/
def withDescription (description : String) (e : Error) : Error :=
  { e with description := some description }

/-- `Error::value`, the setter; a key has one value. -/
def withValue (key value : Error.Value) (e : Error) : Error :=
  { e with values := (key, value) :: e.values.filter (·.1 ≠ key) }

end Error

/-- `Outcome`, a value or an error. -/
abbrev Outcome (α : Type*) := Except Error α

end Airmap
