import PlatformSdk.Machine.Tracing
import PlatformSdk.Rest.Authenticator

/-!
# A callback that throws

The callback of the user is called inside the block whose handler calls it again.
Here the callback may throw, and the calls are counted however they end; a
callback that never throws gives the calls of `authenticateWithPassword`.
-/

namespace Airmap.Rest.Authenticator

open Machine (Attempt Tracing)
open Net.Http

variable (text : Json.Text) (throws : List (Outcome Token.OAuth) → Option String)

/-- The branch of a client error, with the calls inside the `try` block. -/
def clientErrorCalls (body : String) : Tracing (Outcome Token.OAuth) Unit :=
  Tracing.catching
    (do
      let j ← Tracing.lift (Attempt.ofExcept (text.parse body))
      match j.find "error_description" with
      | some description =>
          let message ← Tracing.lift description.getString
          Tracing.emit throws (.error { message := message })
      | none => Tracing.emit throws genericClientError)
    fun _ => Tracing.emit throws genericClientError

/-- The callback that `authenticate_with_password` hands to the requester, for a
callback of the user that throws after these calls. -/
def authenticateWithPasswordCalls (result : Outcome Response) :
    Tracing (Outcome Token.OAuth) Unit :=
  match result with
  | .ok response =>
      match response.classify with
      | .informational | .redirection => pure ()
      | .success | .serverError => do
          let outcome ← Tracing.lift
            (Jsend.parseToOutcome text Token.OAuth.decode response.body)
          Tracing.emit throws outcome
      | .clientError => clientErrorCalls text throws response.body
      | .unclassified => Tracing.emit throws (.error (networkingError response))
  | .error e => Tracing.emit throws (.error e)

/-- With a callback that never throws, what is called is what
`authenticateWithPassword` says. -/
theorem clientErrorCalls_of_noThrow (body : String) :
    ∃ calls, clientError text body = .returns calls ∧
      (clientErrorCalls text (fun _ => none) body).run [] = (.returns (), calls) := by
  rw [clientError, clientErrorCalls]
  cases hparse : text.parse body with
  | error what => exact ⟨_, rfl, rfl⟩
  | ok j =>
      simp only [Attempt.ofExcept, Attempt.returns_bind, Tracing.lift_returns_bind]
      cases j.find "error_description" with
      | none => exact ⟨_, rfl, rfl⟩
      | some description => cases description <;> exact ⟨_, rfl, rfl⟩

theorem authenticateWithPasswordCalls_of_noThrow {result : Outcome Response}
    {calls : List (Outcome Token.OAuth)}
    (h : authenticateWithPassword text result = .returns calls) :
    (authenticateWithPasswordCalls text (fun _ => none) result).run [] =
      (.returns (), calls) := by
  cases result with
  | error e =>
      cases h
      rfl
  | ok response =>
      simp only [authenticateWithPassword] at h
      simp only [authenticateWithPasswordCalls]
      cases hclass : response.classify with
      | informational | redirection =>
          rw [hclass] at h
          cases h
          rfl
      | success | serverError =>
          rw [hclass] at h
          obtain ⟨outcome, houtcome, hcalls⟩ := Attempt.bind_eq_returns_iff.mp h
          cases hcalls
          dsimp only
          rw [houtcome]
          rfl
      | clientError =>
          rw [hclass] at h
          obtain ⟨calls', hcalls', htrace⟩ := clientErrorCalls_of_noThrow text response.body
          obtain rfl : calls' = calls := by simpa [hcalls'] using h
          exact htrace
      | unclassified =>
          rw [hclass] at h
          cases h
          rfl

/-! ## The number of calls -/

/-- What the block calls the callback with, unless the body is no document or its
reason is no string. -/
def insideCall (body : String) : Option (Outcome Token.OAuth) :=
  match text.parse body with
  | .error _ => none
  | .ok j =>
      match j.find "error_description" with
      | none => some genericClientError
      | some (.string message) => some (.error { message := message })
      | some _ => none

/-- The block makes at most one call; the handler makes another one unless that call
returns. -/
theorem clientErrorCalls_trace (body : String) :
    ((clientErrorCalls text throws body).run []).2 =
      match insideCall text body with
      | none => [genericClientError]
      | some outcome =>
          if (throws [outcome]).isSome then [outcome, genericClientError] else [outcome] := by
  have hcatching : ∀ outcome,
      (((Tracing.emit throws outcome).catching
        fun _ => Tracing.emit throws genericClientError).run []).2 =
      if (throws [outcome]).isSome then [outcome, genericClientError] else [outcome] := by
    intro outcome
    rw [Tracing.run_emit_catching, List.nil_append]
    cases throws [outcome] with
    | none => rfl
    | some what => simp
  rw [clientErrorCalls, insideCall]
  cases hparse : text.parse body with
  | error what => simp [Attempt.ofExcept]
  | ok j =>
      simp only [Attempt.ofExcept, Tracing.lift_returns_bind]
      cases j.find "error_description" with
      | none => exact hcatching genericClientError
      | some description =>
          cases description with
          | string message => exact hcatching (.error { message := message })
          | _ => simp [Json.getString]

/-- The callback returns from its first call, if that is made inside the block: with
the reason of the server, or with the generic one where the server gives none. -/
def ReturnsFirst (body : String) : Prop :=
  ∀ j, text.parse body = .ok j →
    match j.find "error_description" with
    | none => throws [genericClientError] = none
    | some (.string message) => throws [.error { message := message }] = none
    | some _ => True

theorem returnsFirst_iff (body : String) :
    ReturnsFirst text throws body ↔
      ∀ outcome, insideCall text body = some outcome → throws [outcome] = none := by
  rw [ReturnsFirst, insideCall]
  cases hparse : text.parse body with
  | error what => simp
  | ok j =>
      simp only [Except.ok.injEq, forall_eq']
      cases j.find "error_description" with
      | none => simp
      | some description => cases description <;> simp

/-- A client error is reported at most once just when the callback returns from its
first call or that call is made by the handler. -/
theorem password_calls_le_one_iff (text : Json.Text)
    (throws : List (Outcome Token.OAuth) → Option String) {response : Response}
    (hstatus : 400 ≤ response.status ∧ response.status < 500) :
    ((authenticateWithPasswordCalls text throws (.ok response)).run []).2.length ≤ 1 ↔
      ReturnsFirst text throws response.body := by
  have hclass : response.classify = .clientError := Response.classify_of_clientError hstatus
  rw [authenticateWithPasswordCalls, hclass, returnsFirst_iff]
  dsimp only
  rw [clientErrorCalls_trace]
  cases insideCall text response.body with
  | none => simp
  | some outcome => cases hthrows : throws [outcome] <;> simp [hthrows]

/-- A login with a wrong password, to a server that says nothing more. -/
def unauthorized : Response := { version := 11, status := 401, body := "\x7b\x7d" }

/-- The callback that returns is called once. -/
theorem password_calls_le_one_iff_unauthorized :
    ((authenticateWithPasswordCalls emptyObjectText (fun _ => none)
      (.ok unauthorized)).run []).2.length ≤ 1 ↔
      ReturnsFirst emptyObjectText (fun _ => none) unauthorized.body :=
  password_calls_le_one_iff emptyObjectText (fun _ => none) (by decide)

/-- The callback that throws is called again. -/
theorem password_calls_twice :
    (400 ≤ unauthorized.status ∧ unauthorized.status < 500) ∧
      ((authenticateWithPasswordCalls emptyObjectText (fun _ => some "not logged in")
        (.ok unauthorized)).run []).2 = [genericClientError, genericClientError] :=
  ⟨by decide, rfl⟩

end Airmap.Rest.Authenticator
