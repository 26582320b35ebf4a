import PlatformSdk.Json
import PlatformSdk.Outcome

/-!
# JSEND responses

`airmap::jsend`, which makes an outcome of the body of a response.  Every
exception on the way becomes an error, so that a body has an outcome unless a
member is read that is not there.
-/

namespace Airmap.Jsend

open Machine (Attempt)

variable {α : Type} (text : Json.Text) (decode : Json → Attempt α)

/-- An error with the data of the document, if there are any. -/
def describe (e : Error) (j : Json) : Attempt (Outcome α) := do
  if 0 < j.count "data" then
    return .error (e.withDescription (text.dump (← j.atKey "data")))
  else
    return .error e

/-- The outcome of a document whose status is `fail`. -/
def failure (j : Json) : Attempt (Outcome α) := do
  if 0 < j.count "message" then
    let message ← (← j.atKey "message").getString
    return .error { message := message }
  else if 0 < (← j.atKey "data").count "message" then
    let data ← j.atKey "data"
    let message ← (← data.atKey "message").getString
    return .error (Error.withDescription (text.dump data) { message := message })
  else
    describe text
      { message := "a failure occured, please see description for details" } j

/-- The outcome of a document whose status is `error`. -/
def error (j : Json) : Attempt (Outcome α) := do
  if 0 < j.count "message" then
    let message ← (← j.atKey "message").getString
    describe text { message := message } j
  else
    describe text
      { message := "an error occured, please see description for details" } j

/-- The outcome of a document without a status. -/
def statusless (j : Json) : Attempt (Outcome α) := do
  if 0 < j.count "error" then
    let message ← (← j.atKey "error").getString
    return .error { message := message }
  else if 0 < j.count "msg" then
    let message ← (← j.atKey "msg").getString
    return .error { message := message }
  else if 0 < j.count "message" then
    let message ← (← j.atKey "message").getString
    return .error { message := message }
  else
    return .ok (← decode j)

/-- `Error::Value{"json"}`.  A string literal converts to `bool` before it converts
to a `std::string`. -/
def jsonKey : Error.Value := .boolean true

def toOutcome (j : Json) : Attempt (Outcome α) :=
  match j.find "status" with
  | some status =>
      if status.eqString "success" then do
        let data ← j.index "data"
        return .ok (← decode data)
      else if status.eqString "fail" then
        failure text j
      else if status.eqString "error" then
        error text j
      else
        return .error (Error.withValue jsonKey (.string (text.dump j))
          { message := "not jsend formatted" })
  | none => statusless decode j

/-- The error of a body that cannot be read. -/
def unreadable (json what : String) : Error :=
  ({ message := "failed to parse JSON response" } : Error)
    |>.withDescription what |>.withValue jsonKey (.string json)

def parseToOutcome (json : String) : Attempt (Outcome α) :=
  Attempt.catching (do toOutcome text decode (← Attempt.ofExcept (text.parse json)))
    fun what => .error (unreadable json what)

/-! ## The part of a document that is decoded -/

/-- What a value is decoded from, if the document can be one: the data of a
success, or a document without any key of JSEND. -/
def payload (j : Json) : Option (Attempt Json) :=
  match j.find "status" with
  | some status => if status.eqString "success" then some (j.index "data") else none
  | none =>
      if 0 < j.count "error" then none
      else if 0 < j.count "msg" then none
      else if 0 < j.count "message" then none
      else some (.returns j)

/-- The evaluation comes to an error or throws. -/
def Fails (x : Attempt (Outcome α)) : Prop :=
  x ≠ .undefined ∧ ∀ a, x ≠ .returns (.ok a)

@[simp] theorem fails_error (e : Error) :
    Fails (.returns (.error e) : Attempt (Outcome α)) := by
  simp [Fails]

theorem fails_bind {β : Type} {x : Attempt β} {f : β → Attempt (Outcome α)}
    (hx : x ≠ .undefined) (hf : ∀ b, Fails (f b)) : Fails (x >>= f) := by
  cases x with
  | returns b => exact hf b
  | throws what => simp [Fails]
  | undefined => exact absurd rfl hx

/-- A member of the document, as a string, is only used for errors. -/
theorem fails_message {f : String → Attempt (Outcome α)} (key : String) (j : Json)
    (hf : ∀ message, Fails (f message)) :
    Fails (do
      let message ← (← j.atKey key).getString
      f message) :=
  fails_bind (Json.atKey_ne_undefined key j) fun value =>
    fails_bind (Json.getString_ne_undefined value) hf

theorem fails_describe (e : Error) (j : Json) :
    Fails (describe (α := α) text e j) := by
  rw [describe]
  split
  · exact fails_bind (Json.atKey_ne_undefined _ _) fun data => fails_error _
  · exact fails_error e

theorem fails_failure (j : Json) : Fails (failure (α := α) text j) := by
  rw [failure]
  split
  · exact fails_message _ _ fun message => fails_error _
  · refine fails_bind (Json.atKey_ne_undefined _ _) fun data => ?_
    split
    · exact fails_bind (Json.atKey_ne_undefined _ _) fun data =>
        fails_message _ _ fun message => fails_error _
    · exact fails_describe text _ j

theorem fails_statusError (j : Json) : Fails (error (α := α) text j) := by
  rw [error]
  split
  · exact fails_message _ _ fun message => fails_describe text _ j
  · exact fails_describe text _ j

/-- A document without a payload is an error. -/
theorem fails_toOutcome {j : Json} (h : payload j = none) :
    Fails (toOutcome text decode j) := by
  rw [toOutcome]
  rw [payload] at h
  split
  next status hstatus =>
    rw [hstatus] at h
    have hsuccess : ¬ status.eqString "success" = true := by
      intro hsuccess
      simp [hsuccess] at h
    rw [if_neg hsuccess]
    split
    · exact fails_failure text j
    · split
      · exact fails_statusError text j
      · exact fails_error _
  next hstatus =>
    rw [hstatus] at h
    rw [statusless]
    split
    · exact fails_message _ _ fun message => fails_error _
    · split
      · exact fails_message _ _ fun message => fails_error _
      · split
        · exact fails_message _ _ fun message => fails_error _
        next hcount hmsg hmessage => simp [hcount, hmsg, hmessage] at h

/-- The payload of a document is decoded. -/
theorem toOutcome_of_payload {j : Json} {source : Attempt Json}
    (h : payload j = some source) :
    toOutcome text decode j = do return .ok (← decode (← source)) := by
  rw [toOutcome]
  rw [payload] at h
  split
  next status hstatus =>
    rw [hstatus] at h
    by_cases hsuccess : status.eqString "success" = true
    · rw [if_pos hsuccess]
      simp only [hsuccess, if_true, Option.some.injEq] at h
      rw [h]
    · simp [hsuccess] at h
  next hstatus =>
    rw [hstatus] at h
    by_cases hcount : 0 < j.count "error"
    · simp [hcount] at h
    · by_cases hmsg : 0 < j.count "msg"
      · simp [hcount, hmsg] at h
      · by_cases hmessage : 0 < j.count "message"
        · simp [hcount, hmsg, hmessage] at h
        · simp only [hcount, hmsg, hmessage, if_false, Option.some.injEq] at h
          rw [statusless, if_neg hcount, if_neg hmsg, if_neg hmessage, ← h]
          rfl

/-- What decoding comes to in a document with a status. -/
theorem exists_payload_of_status {j status : Json}
    (hstatus : j.find "status" = some status) (result : Attempt α) :
    (∃ source, payload j = some source ∧ (source >>= decode) = result) ↔
      status.eqString "success" = true ∧ (j.index "data" >>= decode) = result := by
  rw [payload]
  rw [hstatus]
  by_cases hsuccess : status.eqString "success" = true <;> simp [hsuccess]

/-- What decoding comes to in a document without a status. -/
theorem exists_payload_of_statusless {j : Json} (hstatus : j.find "status" = none)
    (result : Attempt α) :
    (∃ source, payload j = some source ∧ (source >>= decode) = result) ↔
      j.count "error" = 0 ∧ j.count "msg" = 0 ∧ j.count "message" = 0 ∧
        decode j = result := by
  rw [payload]
  rw [hstatus]
  by_cases hcount : 0 < j.count "error"
  · simp [hcount, Nat.ne_of_gt hcount]
  · by_cases hmsg : 0 < j.count "msg"
    · simp [hcount, hmsg, Nat.ne_of_gt hmsg]
    · by_cases hmessage : 0 < j.count "message"
      · simp [hcount, hmsg, hmessage, Nat.ne_of_gt hmessage]
      · simp only [Nat.pos_iff_ne_zero, not_not] at hcount hmsg hmessage
        simp [hcount, hmsg, hmessage]

/-! ## Bodies without an outcome -/

/-- Decoding the document reads a member that is not there: the data of a
success, or something that the decoder itself asks for. -/
def MissesMember (j : Json) : Prop :=
  match j.find "status" with
  | some status => status.eqString "success" = true ∧
      ∀ data ∈ j.find "data", decode data = .undefined
  | none => j.count "error" = 0 ∧ j.count "msg" = 0 ∧ j.count "message" = 0 ∧
      decode j = .undefined

/-- The body of a response is a document that misses no member. -/
def Readable (json : String) : Prop :=
  ∀ j, text.parse json = .ok j → ¬ MissesMember decode j

theorem missesMember_iff (j : Json) :
    MissesMember decode j ↔
      ∃ source, payload j = some source ∧ (source >>= decode) = .undefined := by
  rw [MissesMember]
  cases hstatus : j.find "status" with
  | none => exact (exists_payload_of_statusless decode hstatus _).symm
  | some status =>
      rw [exists_payload_of_status decode hstatus, Json.index_of_find hstatus]
      cases hdata : j.find "data" <;> simp

/-- A document has an outcome unless decoding it misses a member. -/
theorem toOutcome_eq_undefined_iff (j : Json) :
    toOutcome text decode j = .undefined ↔ MissesMember decode j := by
  rw [missesMember_iff]
  cases hpayload : payload j with
  | none =>
      simp [(fails_toOutcome text decode hpayload).1]
  | some source =>
      rw [toOutcome_of_payload text decode hpayload]
      simp [Attempt.bind_eq_undefined_iff]

/-- A body has an outcome exactly when it is readable. -/
theorem exists_parseToOutcome_iff (json : String) :
    (∃ outcome, parseToOutcome text decode json = .returns outcome) ↔
      Readable text decode json := by
  rw [parseToOutcome, Attempt.exists_catching_eq_returns_iff, ne_eq,
    Attempt.bind_eq_undefined_iff, not_or]
  rw [Readable]
  cases hparse : text.parse json with
  | error what => simp [Attempt.ofExcept]
  | ok j => simp [Attempt.ofExcept, toOutcome_eq_undefined_iff]

/-! ## Bodies with a value -/

/-- The document is a value: a success whose data decode to it, or a document
without any key of JSEND that itself decodes to it. -/
def Decodes (j : Json) (a : α) : Prop :=
  match j.find "status" with
  | some status => status.eqString "success" = true ∧
      ∃ data, j.find "data" = some data ∧ decode data = .returns a
  | none => j.count "error" = 0 ∧ j.count "msg" = 0 ∧ j.count "message" = 0 ∧
      decode j = .returns a

theorem decodes_iff (j : Json) (a : α) :
    Decodes decode j a ↔
      ∃ source, payload j = some source ∧ (source >>= decode) = .returns a := by
  rw [Decodes]
  cases hstatus : j.find "status" with
  | none => exact (exists_payload_of_statusless decode hstatus _).symm
  | some status =>
      rw [exists_payload_of_status decode hstatus, Json.index_of_find hstatus]
      cases hdata : j.find "data" <;> simp

/-- No status but `success` makes a value of a document. -/
theorem toOutcome_eq_ok_iff (j : Json) (a : α) :
    toOutcome text decode j = .returns (.ok a) ↔ Decodes decode j a := by
  rw [decodes_iff]
  cases hpayload : payload j with
  | none => simp [(fails_toOutcome text decode hpayload).2]
  | some source =>
      rw [toOutcome_of_payload text decode hpayload]
      simp [Attempt.bind_eq_returns_iff]

theorem parseToOutcome_eq_ok_iff (json : String) (a : α) :
    parseToOutcome text decode json = .returns (.ok a) ↔
      ∃ j, text.parse json = .ok j ∧ Decodes decode j a := by
  rw [parseToOutcome]
  cases hparse : text.parse json with
  | error what => simp [Attempt.ofExcept, Attempt.catching]
  | ok j =>
      simp only [Attempt.ofExcept, Attempt.returns_bind, Except.ok.injEq,
        exists_eq_left', ← toOutcome_eq_ok_iff text decode]
      cases toOutcome text decode j <;> simp [Attempt.catching]

/-- The two ways in which a document is a value. -/
theorem decodes_iff_success_or_bare (j : Json) (a : α) :
    Decodes decode j a ↔
      (j.find "status" = some (.string "success") ∧
        ∃ data, j.find "data" = some data ∧ decode data = .returns a) ∨
      ((∀ key ∈ ["status", "error", "msg", "message"], j.find key = none) ∧
        decode j = .returns a) := by
  rw [Decodes]
  cases hstatus : j.find "status" with
  | none => simp [hstatus, Json.count_eq_zero_iff, and_assoc]
  | some status => simp [hstatus, Json.eqString_iff]

/-- A body has an outcome, and one that is a value only where its document is
decoded to that value, exactly when it is readable. -/
theorem parseToOutcome_safe_iff {α : Type} (text : Json.Text)
    (decode : Json → Attempt α) (json : String) :
    (∃ outcome, parseToOutcome text decode json = .returns outcome ∧
      ∀ a, outcome = .ok a → ∃ j, text.parse json = .ok j ∧ Decodes decode j a) ↔
      Readable text decode json := by
  rw [← exists_parseToOutcome_iff]
  refine exists_congr fun outcome => and_iff_left_of_imp fun houtcome a hvalue => ?_
  rw [← parseToOutcome_eq_ok_iff text decode, houtcome, hvalue]

/-- The body is no document, or one that is not a value and misses no member. -/
def Rejected (json : String) : Prop :=
  ∀ j, text.parse json = .ok j →
    ¬ MissesMember decode j ∧ ∀ a, ¬ Decodes decode j a

theorem exists_error_iff (json : String) :
    (∃ e, parseToOutcome text decode json = .returns (.error e)) ↔
      Rejected text decode json := by
  have hreadable := exists_parseToOutcome_iff text decode json
  have hvalue := parseToOutcome_eq_ok_iff text decode json
  constructor
  · rintro ⟨e, he⟩ j hparse
    refine ⟨hreadable.mp ⟨_, he⟩ j hparse, fun a hdecodes => ?_⟩
    have hok := (hvalue a).mpr ⟨j, hparse, hdecodes⟩
    rw [he] at hok
    cases hok
  · intro hrejected
    obtain ⟨outcome, houtcome⟩ := hreadable.mpr fun j hparse => (hrejected j hparse).1
    cases outcome with
    | error e => exact ⟨e, houtcome⟩
    | ok a =>
        obtain ⟨j, hparse, hdecodes⟩ := (hvalue a).mp houtcome
        exact absurd hdecodes ((hrejected j hparse).2 a)

/-- A document with a status other than `success` is an error, whatever its
other members are. -/
theorem exists_error_of_status {json : String} {j status : Json}
    (hparse : text.parse json = .ok j) (hstatus : j.find "status" = some status)
    (hsuccess : status ≠ .string "success") :
    ∃ e, parseToOutcome text decode json = .returns (.error e) := by
  have heq : ¬ status.eqString "success" = true := by
    rwa [Json.eqString_iff]
  rw [exists_error_iff]
  intro j' hparse'
  obtain rfl : j = j' := by
    rw [hparse] at hparse'
    exact Except.ok.inj hparse'
  constructor
  · simp [MissesMember, hstatus, heq]
  · simp [Decodes, hstatus, heq]

/-- The body of a document is a value exactly when the document is a success whose
data decode to it, or has no key of JSEND and itself decodes to it; with any other
status it is an error. -/
theorem parseToOutcome_classifies {α : Type} (text : Json.Text)
    (decode : Json → Attempt α) {json : String} {j : Json}
    (hparse : text.parse json = .ok j) :
    (∀ a, parseToOutcome text decode json = .returns (.ok a) ↔
      (j.find "status" = some (.string "success") ∧
        ∃ data, j.find "data" = some data ∧ decode data = .returns a) ∨
      ((∀ key ∈ ["status", "error", "msg", "message"], j.find key = none) ∧
        decode j = .returns a)) ∧
    ∀ status, j.find "status" = some status → status ≠ .string "success" →
      ∃ e, parseToOutcome text decode json = .returns (.error e) := by
  constructor
  · intro a
    rw [parseToOutcome_eq_ok_iff, ← decodes_iff_success_or_bare]
    simp [hparse]
  · intro status hstatus hsuccess
    exact exists_error_of_status text decode hparse hstatus hsuccess

/-- A document whose status is `fail` and whose message is no string. -/
theorem parseToOutcome_classifies_fail :
    let j : Json := .object
      [("status", .string "fail"), ("message", .array []), ("data", .null)]
    let body := "\x7b\"status\":\"fail\",\"message\":[],\"data\":null\x7d"
    let text : Json.Text :=
      { parse := fun json => if json = body then .ok j else .error "parse error"
        dump := fun _ => body }
    ∀ a : Json, parseToOutcome text .returns body ≠ .returns (.ok a) := by
  intro j body text a hvalue
  have hparse : text.parse body = .ok j := by simp [text]
  obtain ⟨hiff, -⟩ := parseToOutcome_classifies text .returns hparse
  rcases (hiff a).mp hvalue with ⟨hstatus, -⟩ | ⟨hnone, -⟩
  · simp [j, Json.find] at hstatus
  · simpa [j, Json.find, List.lookup_cons] using hnone "status" (by simp)

end Airmap.Jsend
