import Mathlib.Data.Nat.Notation
import PlatformSdk.Outcome

/-!
# HTTP responses
-/

namespace Airmap.Net.Http

/-- `Response`. -/
structure Response where
  version : ℕ
  status : ℕ
  headers : List (String × String) := []
  body : String
  deriving DecidableEq

/-- `Response::Classification`. -/
inductive Response.Classification where
  | informational
  | success
  | redirection
  | clientError
  | serverError
  | unclassified
  deriving DecidableEq, Repr

namespace Response

def classify (response : Response) : Classification :=
  let status := response.status
  if 100 ≤ status ∧ status < 200 then .informational
  else if 200 ≤ status ∧ status < 300 then .success
  else if 300 ≤ status ∧ status < 400 then .redirection
  else if 400 ≤ status ∧ status < 500 then .clientError
  else if 500 ≤ status ∧ status < 600 then .serverError
  else .unclassified

/-- The response announces that another one follows, or that it is elsewhere. -/
def IsInterim (response : Response) : Prop :=
  response.classify = .informational ∨ response.classify = .redirection

instance : DecidablePred IsInterim := fun _ =>
  inferInstanceAs (Decidable (_ ∨ _))

theorem classify_of_clientError {response : Response}
    (h : 400 ≤ response.status ∧ response.status < 500) :
    response.classify = .clientError := by
  have hone : ¬ response.status < 200 := by omega
  have htwo : ¬ response.status < 300 := by omega
  have hthree : ¬ response.status < 400 := by omega
  simp [classify, hone, htwo, hthree, h]

theorem classify_of_error {response : Response}
    (h : 400 ≤ response.status ∧ response.status < 600) :
    response.classify = .clientError ∨ response.classify = .serverError := by
  have hone : ¬ response.status < 200 := by omega
  have htwo : ¬ response.status < 300 := by omega
  have hthree : ¬ response.status < 400 := by omega
  by_cases hclient : response.status < 500
  · exact Or.inl (classify_of_clientError ⟨h.1, hclient⟩)
  · have hserver : 500 ≤ response.status := Nat.le_of_not_lt hclient
    exact Or.inr (by simp [classify, hone, htwo, hthree, hclient, hserver, h.2])

end Response
end Airmap.Net.Http
