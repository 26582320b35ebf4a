import PlatformSdk.Jsend
import PlatformSdk.Net.Http.Boost.Request

/-!
# From responses to outcomes

`jsend_parsing_request_callback` stands between the callback of a requester and
that of a user.  Its result is the list of calls of the user's callback, which
is assumed not to throw.
-/

namespace Airmap.Net.Http

open Machine (Attempt)
open Airmap.Net.Http.Boost (Network Protocol)

variable {α : Type} (text : Json.Text) (decode : Json → Attempt α)

/-- The error of a response of no known class. -/
def networkingError (response : Response) : Error :=
  ({ message := "networking error" } : Error)
    |>.withValue (.string "status-code") (.integer response.status)
    |>.withValue (.string "body") (.string response.body)

def jsendParsingRequestCallback (result : Outcome Response) :
    Attempt (List (Outcome α)) :=
  match result with
  | .ok response =>
      match response.classify with
      | .informational | .redirection => return []
      | .success | .clientError | .serverError => do
          let outcome ← Jsend.parseToOutcome text decode response.body
          return [outcome]
      | .unclassified => return [.error (networkingError response)]
  | .error e => return [.error e]

/-- The calls of a user's callback, in their order. -/
def collect (callback : Outcome Response → Attempt (List (Outcome α)))
    (result : Outcome Response) (calls : Attempt (List (Outcome α))) :
    Attempt (List (Outcome α)) := do
  let before ← calls
  let after ← callback result
  return before ++ after

/-- The calls of a user's callback over a request, after at most `n` operations. -/
def callsOf (callback : Outcome Response → Attempt (List (Outcome α)))
    (protocol : Protocol) (network : Network) (n : ℕ) :
    Attempt (List (Outcome α)) :=
  (Boost.Exchange.perform (collect callback) protocol network (.returns []) n).user

/-- Once the request is over, the callback was given its result and nothing
else. -/
theorem callsOf_eq (callback : Outcome Response → Attempt (List (Outcome α)))
    (protocol : Protocol) (network : Network) (n : ℕ) :
    callsOf callback protocol network (5 + n) = callback (network.result protocol) := by
  rw [callsOf, Boost.Exchange.perform_eq]
  dsimp only
  cases hcalls : callback (network.result protocol) <;> simp [collect, hcalls]

/-- A parsed body gives one call exactly when it is readable. -/
theorem exists_parsed_iff (body : String) :
    (∃ outcome, (do
      let outcome ← Jsend.parseToOutcome text decode body
      return [outcome]) = Attempt.returns [outcome]) ↔
      Jsend.Readable text decode body := by
  rw [← Jsend.exists_parseToOutcome_iff]
  cases hparse : Jsend.parseToOutcome text decode body <;> simp

/-- The result is an error, or a response that is neither interim nor unreadable
although its class is known. -/
def IsReported (result : Outcome Response) : Prop :=
  ∀ response, result = .ok response → ¬ response.IsInterim ∧
    (response.classify ≠ .unclassified → Jsend.Readable text decode response.body)

theorem jsend_calls_once_iff (result : Outcome Response) :
    (∃ outcome, jsendParsingRequestCallback text decode result =
      .returns [outcome]) ↔ IsReported text decode result := by
  cases result with
  | error e => simp [jsendParsingRequestCallback, IsReported]
  | ok response =>
      have hparsed := exists_parsed_iff text decode response.body
      cases hclass : response.classify with
      | informational | redirection =>
          simp [jsendParsingRequestCallback, IsReported, Response.IsInterim, hclass]
      | unclassified =>
          simp [jsendParsingRequestCallback, IsReported, Response.IsInterim, hclass]
      | success | clientError | serverError =>
          simpa [jsendParsingRequestCallback, IsReported, Response.IsInterim, hclass]
            using hparsed

/-! ## Errors of the server -/

/-- A response with the status of an error is reported as one exactly when its
body is rejected. -/
theorem httpError_reported_iff {α : Type} (text : Json.Text)
    (decode : Json → Attempt α) (response : Response)
    (hstatus : 400 ≤ response.status ∧ response.status < 600) :
    (∃ e, jsendParsingRequestCallback text decode (.ok response) =
      .returns [.error e]) ↔ Jsend.Rejected text decode response.body := by
  rw [← Jsend.exists_error_iff]
  rcases Response.classify_of_error hstatus with hclass | hclass
  · simp only [jsendParsingRequestCallback, hclass]
    cases Jsend.parseToOutcome text decode response.body <;> simp
  · simp only [jsendParsingRequestCallback, hclass]
    cases Jsend.parseToOutcome text decode response.body <;> simp

def notFound : Response where
  version := 11
  status := 404
  body := "\x7b\x7d"

/-- A parser that knows one text, that of an object without members. -/
def emptyObjectText : Json.Text where
  parse := fun json =>
    if json = notFound.body then .ok (.object [])
    else .error (Json.exceptionWhat "parse_error" 101 "parse error")
  dump := fun _ => notFound.body

/-- The object without members is rejected where a string is expected. -/
theorem httpError_reported_iff_notFound :
    (400 ≤ notFound.status ∧ notFound.status < 600) ∧
      ((∃ e, jsendParsingRequestCallback emptyObjectText Json.getString
        (.ok notFound) = .returns [.error e]) ↔
        Jsend.Rejected emptyObjectText Json.getString notFound.body) :=
  ⟨by decide, httpError_reported_iff emptyObjectText Json.getString notFound
    (by decide)⟩

end Airmap.Net.Http
