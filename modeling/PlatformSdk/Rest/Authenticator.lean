import PlatformSdk.Net.Http.Middleware

/-!
# Logging in with a password

`rest::Authenticator::authenticate_with_password` handles responses by itself:
it reads the body of a client error in its own way.
-/

namespace Airmap

open Machine (Attempt)
open Net.Http

/-! ## Tokens -/

/-- `Token::OAuth::Type`. -/
inductive Token.OAuth.Kind where
  | bearer
  deriving DecidableEq, Repr

/-- `Token::OAuth`; its type is not initialized before it is decoded. -/
structure Token.OAuth where
  type : Option Token.OAuth.Kind := none
  refresh : String := ""
  id : String := ""
  access : String := ""
  deriving DecidableEq

/-- `codec::json::get`, which leaves a value alone for a missing or empty
member. -/
def Json.get {β : Type} (current : β) (read : Json → Attempt β) (name : String)
    (j : Json) : Attempt β := do
  if 0 < j.count name then
    match ← j.atKey name with
    | .null => return current
    | value => read value
  else
    return current

theorem Json.get_ne_undefined {β : Type} (current : β) {read : Json → Attempt β}
    (hread : ∀ value, read value ≠ .undefined) (name : String) (j : Json) :
    j.get current read name ≠ .undefined := by
  rw [Json.get]
  split
  · rw [ne_eq, Attempt.bind_eq_undefined_iff, not_or]
    refine ⟨Json.atKey_ne_undefined _ _, ?_⟩
    rintro ⟨value, -, hrest⟩
    revert hrest
    split
    · exact (nomatch ·)
    · exact hread _
  · exact (nomatch ·)

/-- `codec::json::get` reads the members that are given, and no others. -/
theorem Json.get_eq_returns_iff {β : Type} {current x : β} {read : Json → Attempt β}
    {name : String} {j : Json} :
    j.get current read name = .returns x ↔
      (¬ j.Gives name ∧ x = current) ∨
        (j.Gives name ∧ ∃ value, j.find name = some value ∧ read value = .returns x) := by
  cases j with
  | object members =>
      cases hmember : members.lookup name with
      | none =>
          simp [Json.get, Json.count, Json.find, Json.Gives, hmember, eq_comm]
      | some value =>
          cases value with
          | null =>
              simp [Json.get, Json.count, Json.find, Json.atKey, Json.Gives, hmember,
                eq_comm]
          | _ => simp [Json.get, Json.count, Json.find, Json.atKey, Json.Gives, hmember]
  | _ => simp [Json.get, Json.count, Json.find, Json.Gives, eq_comm]

namespace Token.OAuth

def decodeKind (j : Json) : Attempt (Option Kind) := do
  let t ← j.getString
  return if t = "bearer" ∨ t = "Bearer" then some .bearer else none

def decode (j : Json) : Attempt Token.OAuth := do
  let refresh ← j.get "" Json.getString "refresh_token"
  let id ← j.get "" Json.getString "id_token"
  let access ← j.get "" Json.getString "access_token"
  let type ← j.get none decodeKind "token_type"
  return { type, refresh, id, access }

theorem decodeKind_ne_undefined (j : Json) : decodeKind j ≠ .undefined := by
  simp [decodeKind, Attempt.bind_eq_undefined_iff, Json.getString_ne_undefined]

/-- A token only reads members that it finds. -/
theorem decode_ne_undefined (j : Json) : decode j ≠ .undefined := by
  have hstring := Json.get_ne_undefined "" Json.getString_ne_undefined
  have hkind := Json.get_ne_undefined none decodeKind_ne_undefined
  simp [decode, Attempt.bind_eq_undefined_iff, hstring, hkind]

end Token.OAuth

/-- `Token::Anonymous`. -/
structure Token.Anonymous where
  id : String := ""
  deriving DecidableEq

def Token.Anonymous.decode (j : Json) : Attempt Token.Anonymous := do
  let id ← j.get "" Json.getString "id_token"
  return { id }

namespace Rest.Authenticator

variable (text : Json.Text)

/-! ## Anonymous tokens -/

/-- The callback that `authenticate_anonymously` hands to the requester. -/
def authenticateAnonymously (result : Outcome Response) :
    Attempt (List (Outcome Token.Anonymous)) :=
  jsendParsingRequestCallback text Token.Anonymous.decode result

/-- What the server does not find is reported as a token. -/
theorem notFound_is_token :
    (400 ≤ notFound.status ∧ notFound.status < 600) ∧
      authenticateAnonymously emptyObjectText (.ok notFound) =
        .returns [.ok { id := "" }] :=
  ⟨by decide, by decide⟩

def successWithoutData : String := "\x7b\"status\":\"success\"\x7d"

/-- A parser that knows one text. -/
def successText : Json.Text where
  parse := fun json =>
    if json = successWithoutData then .ok (.object [("status", .string "success")])
    else .error (Json.exceptionWhat "parse_error" 101 "parse error")
  dump := fun _ => successWithoutData

theorem successWithoutData_undefined :
    Jsend.parseToOutcome successText Token.Anonymous.decode successWithoutData =
      .undefined := by
  decide

/-! ## The callback of the login -/

/-- What is reported where the server gives no reason. -/
def genericClientError : Outcome Token.OAuth :=
  .error { message := "generic client error" }

/-- The calls that the body of a client error leads to.  An exception comes
before the call, in the argument of which it is thrown. -/
def clientError (body : String) : Attempt (List (Outcome Token.OAuth)) :=
  Attempt.catching
    (do
      let j ← Attempt.ofExcept (text.parse body)
      match j.find "error_description" with
      | some description =>
          let message ← description.getString
          return [.error { message := message }]
      | none => return [genericClientError])
    fun _ => [genericClientError]

/-- The callback that `authenticate_with_password` hands to the requester. -/
def authenticateWithPassword (result : Outcome Response) :
    Attempt (List (Outcome Token.OAuth)) :=
  match result with
  | .ok response =>
      match response.classify with
      | .informational | .redirection => return []
      | .success | .serverError => do
          let outcome ← Jsend.parseToOutcome text Token.OAuth.decode response.body
          return [outcome]
      | .clientError => clientError text response.body
      | .unclassified => return [.error (networkingError response)]
  | .error e => return [.error e]

/-- Every client error is reported, whatever its body. -/
theorem clientError_calls_once (body : String) :
    ∃ outcome, clientError text body = .returns [outcome] := by
  rw [clientError]
  cases hparse : text.parse body with
  | error what => exact ⟨_, rfl⟩
  | ok j =>
      simp only [Attempt.ofExcept, Attempt.returns_bind]
      cases hdescription : j.find "error_description" with
      | none => exact ⟨_, rfl⟩
      | some description =>
          have hdefined := Json.getString_ne_undefined description
          dsimp only
          cases hmessage : description.getString with
          | returns message => exact ⟨_, rfl⟩
          | throws what => exact ⟨_, rfl⟩
          | undefined => exact absurd hmessage hdefined

/-- The body of a response is not a success without data. -/
def HasData (body : String) : Prop :=
  ∀ j, text.parse body = .ok j → ∀ status ∈ j.find "status",
    status.eqString "success" = true → (j.find "data").isSome

theorem readable_iff_hasData (body : String) :
    Jsend.Readable text Token.OAuth.decode body ↔ HasData text body := by
  unfold Jsend.Readable HasData Jsend.MissesMember
  refine forall₂_congr fun j hparse => ?_
  cases hstatus : j.find "status" with
  | none => simp [Token.OAuth.decode_ne_undefined]
  | some status =>
      cases hdata : j.find "data" with
      | none => simp
      | some data => simp [Token.OAuth.decode_ne_undefined]

/-- The result is an error, a client error, or a response that is not interim
and has data where it is read as a token. -/
def IsReported (result : Outcome Response) : Prop :=
  ∀ response, result = .ok response → ¬ response.IsInterim ∧
    (response.classify = .success ∨ response.classify = .serverError →
      HasData text response.body)

theorem authenticateWithPassword_calls_once_iff (result : Outcome Response) :
    (∃ outcome, authenticateWithPassword text result = .returns [outcome]) ↔
      IsReported text result := by
  cases result with
  | error e => simp [authenticateWithPassword, IsReported]
  | ok response =>
      have hparsed := exists_parsed_iff text Token.OAuth.decode response.body
      rw [readable_iff_hasData] at hparsed
      cases hclass : response.classify with
      | informational | redirection =>
          simp [authenticateWithPassword, IsReported, Response.IsInterim, hclass]
      | clientError =>
          simpa [authenticateWithPassword, IsReported, Response.IsInterim, hclass]
            using clientError_calls_once text response.body
      | unclassified =>
          simp [authenticateWithPassword, IsReported, Response.IsInterim, hclass]
      | success | serverError =>
          simpa [authenticateWithPassword, IsReported, Response.IsInterim, hclass]
            using hparsed

/-- For every way the network operations end, once a request is over the user's
callback was called exactly once, if and only if its result is reported. -/
theorem calls_once_iff {α : Type} (text : Json.Text) (decode : Json → Attempt α)
    (protocol : Boost.Protocol) (network : Boost.Network) (n : ℕ) :
    ((∃ outcome, callsOf (jsendParsingRequestCallback text decode) protocol network
        (5 + n) = .returns [outcome]) ↔
      Net.Http.IsReported text decode (network.result protocol)) ∧
    ((∃ outcome, callsOf (authenticateWithPassword text) protocol network
        (5 + n) = .returns [outcome]) ↔
      IsReported text (network.result protocol)) := by
  constructor
  · rw [callsOf_eq]
    exact jsend_calls_once_iff text decode _
  · rw [callsOf_eq]
    exact authenticateWithPassword_calls_once_iff text _

/-- A server that sends the client elsewhere. -/
def redirecting : Boost.Network where
  resolve := none
  connect := none
  handshake := none
  write := none
  read := .ok { version := 11, status := 302, body := "" }

/-- A parser for the body of that response, which is no document. -/
def emptyText : Json.Text where
  parse := fun _ => .error (Json.exceptionWhat "parse_error" 101
    "parse error at 1: syntax error - unexpected end of input")
  dump := fun _ => "null"

theorem redirection_not_reported :
    callsOf (jsendParsingRequestCallback emptyText Token.OAuth.decode) .https
        redirecting 5 = .returns [] ∧
      callsOf (authenticateWithPassword emptyText) .https redirecting 5 =
        .returns [] :=
  ⟨rfl, rfl⟩

end Rest.Authenticator
end Airmap
