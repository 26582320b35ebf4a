import PlatformSdk.Codec.Json.Token
import PlatformSdk.Machine.Variant

/-!
# Tokens as objects

The union of `Token` and the functions that put a token into it.
-/

namespace Airmap.Token

open Machine

/-- `Token`, with its `type_` and its `data_`. -/
abbrev Object := Machine.Object Kind Token

namespace Object

def getAnonymous (o : Object) : Attempt Anonymous :=
  match o.member with
  | .anonymous details => .returns details
  | _ => .undefined

def getOAuth (o : Object) : Attempt OAuth :=
  match o.member with
  | .oauth details => .returns details
  | _ => .undefined

def getRefreshed (o : Object) : Attempt Refreshed :=
  match o.member with
  | .refreshed details => .returns details
  | _ => .undefined

def fresh : Object where
  tag := .unknown
  member := .unknown

/-- What the functions `construct` for the members have in common. -/
def place (token : Token) (o : Object) : Object :=
  { o with tag := token.kind, member := token }

def constructAnonymous (anonymous : Anonymous) : Object → Object :=
  place (.anonymous anonymous)

def constructOAuth (oauth : OAuth) : Object → Object := place (.oauth oauth)

def constructRefreshed (refreshed : Refreshed) : Object → Object :=
  place (.refreshed refreshed)

/-- The constructors that are given the details of a token, and the one that is given
nothing. -/
def init : Token → Object
  | .unknown => fresh
  | .anonymous details => fresh.constructAnonymous details
  | .oauth details => fresh.constructOAuth details
  | .refreshed details => fresh.constructRefreshed details

/-- `construct` for another token, which may be the token itself: then its type does not
change when it is set. -/
def construct (o token : Object) : Attempt Object :=
  let o : Object := { o with tag := token.tag }
  match o.tag with
  | .anonymous => do return { o with member := .anonymous (← getAnonymous token) }
  | .oauth => do return { o with member := .oauth (← getOAuth token) }
  | .refreshed => do return { o with member := .refreshed (← getRefreshed token) }
  | .unknown => .returns o

/-- `destruct`. -/
def destruct (o : Object) : Attempt Object := do
  let o ← match o.tag with
    | .anonymous => o.destroy kind .unknown .anonymous
    | .oauth => o.destroy kind .unknown .oauth
    | .refreshed => o.destroy kind .unknown .refreshed
    | .unknown => .returns o
  return { o with tag := .unknown }

end Object

/-- The class `Token`. -/
def variant : Variant Kind Token where
  kind := kind
  empty := .unknown
  fresh := Object.fresh
  init := Object.init
  destruct := Object.destruct
  construct := Object.construct

theorem variant_isLawful : variant.IsLawful := by
  refine .of_cases ?_ rfl ?_ ?_ ?_ ?_ ?_
  · intro token hkind
    cases token with
    | unknown => rfl
    | _ => cases hkind
  · intro token
    cases token with
    | _ => exact ⟨rfl, fun _ => rfl⟩
  · intro o htag
    refine ⟨{ o with tag := .unknown }, ?_, rfl⟩
    change Object.destruct o = _
    rw [Object.destruct, show o.tag = .unknown from htag]
    rfl
  · intro token hne
    cases token with
    | unknown => exact absurd rfl hne
    | _ => exact ⟨_, rfl, rfl⟩
  · intro o other _ htag
    refine ⟨{ o with tag := .unknown }, ?_, rfl⟩
    change Object.construct o other = _
    rw [Object.construct, show other.tag = .unknown from htag]
  · intro o token _ hne
    cases token with
    | unknown => exact absurd rfl hne
    | _ => rfl

end Airmap.Token
