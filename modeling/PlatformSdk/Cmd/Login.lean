import PlatformSdk.Codec.Json.Token
import PlatformSdk.Machine.Transducer

/-!
# Renewing a login

The command `login --renew` loads the token file, asks for a new token with the
refresh token that it finds there, and writes the answer to the file together
with the token that was renewed.  A run that succeeds is a step on the file.
-/

namespace Airmap.Cmd.Login

open Machine (Attempt tryFeed tryFeed_invariant)

variable {τ : Type} (storage : Json.Storage τ)

/-- `Authenticator::RenewAuthentication::Params`, as far as they differ between
requests. -/
structure Params where
  clientId : String
  refreshToken : String
  deriving DecidableEq

/-- What a run finds outside of the token file: the client id among the
credentials, if there is one, the answer of the server, and whether the file can
be opened for writing. -/
structure Environment where
  clientId : Option String
  result : Outcome Token.Refreshed
  writable : Bool := true

/-- The original token that a renewal starts from. -/
def originalToken : Token → Option Token.OAuth
  | .oauth details => some details
  | .refreshed details => details.originalToken
  | .unknown | .anonymous _ => none

/-- The tests that the action makes before it renews a token. -/
def isRenewable : Token → Bool
  | .oauth details => details.refresh ≠ ""
  | .refreshed details => details.originalToken.isSome
  | .unknown | .anonymous _ => false

/-- `Optional::get`, whose result is undefined without a value. -/
def get {α : Type} : Option α → Attempt α
  | some value => .returns value
  | none => .undefined

/-- `Login::renew_authentication`, up to the request. -/
def renewAuthentication (clientId : Option String) (token : Token) : Attempt Params := do
  let clientId ← get clientId
  match token with
  | .oauth details => return { clientId, refreshToken := details.refresh }
  | .refreshed details =>
      return { clientId, refreshToken := (← get details.originalToken).refresh }
  | .unknown | .anonymous _ => return { clientId, refreshToken := "" }

/-- The token that was received, with the original token of the previous one. -/
def withOriginalToken (t : Token.Refreshed) : Token → Attempt Token.Refreshed
  | .oauth details => return { t with originalToken := some details }
  | .refreshed details => do
      let original ← get details.originalToken
      return { t with originalToken := some original }
  | .unknown | .anonymous _ => return t

/-- `Login::handle_result_for_renewed_authentication`: the content of the token
file, unless the command stops with an error. -/
def handleResultForRenewedAuthentication (result : Outcome Token.Refreshed)
    (writable : Bool) (previousToken : Token) : Attempt (Option τ) :=
  match result with
  | .error _ => return none
  | .ok t => do
      let t ← withOriginalToken t previousToken
      -- `print_token` shows when the token expires
      let _ ← get t.expiresIn
      if writable then
        let j ← (Token.refreshed t).encode
        return some (storage.dump j)
      else
        return none

/-- A renewal that was carried out: the request, and the file after it. -/
structure Renewal (τ : Type) where
  request : Params
  file : τ

/-- The action with `--renew`; without a value where the command stops with an
error. -/
def renew (file : τ) (environment : Environment) : Attempt (Option (Renewal τ)) := do
  let token ← Token.loadFromJson storage file
  if isRenewable token then
    let request ← renewAuthentication environment.clientId token
    let written ← handleResultForRenewedAuthentication storage environment.result
      environment.writable token
    return written.map fun file => { request, file }
  else
    return none

/-- A run of the command that succeeds, as a step on the token file. -/
def succeed (file : τ) (environment : Environment) : Option (τ × List (Renewal τ)) :=
  match renew storage file environment with
  | .returns (some renewal) => some (renewal.file, [renewal])
  | _ => none

/-- The file holds a token that can be renewed and comes from `original`. -/
def Holds (original : Token.OAuth) (file : τ) : Prop :=
  ∃ token, Token.loadFromJson storage file = .returns token ∧
    isRenewable token ∧ originalToken token = some original

variable {storage}

/-- The request carries the refresh token of the original token. -/
theorem renewAuthentication_eq {token : Token} {original : Token.OAuth}
    (horiginal : originalToken token = some original) (clientId : Option String) :
    renewAuthentication clientId token = (do
      let clientId ← get clientId
      return { clientId, refreshToken := original.refresh }) := by
  cases token with
  | unknown => cases horiginal
  | anonymous details => cases horiginal
  | oauth details =>
      cases horiginal
      rfl
  | refreshed details =>
      simp only [originalToken] at horiginal
      simp [renewAuthentication, horiginal, get]

theorem withOriginalToken_eq {token : Token} {original : Token.OAuth}
    (horiginal : originalToken token = some original) (t : Token.Refreshed) :
    withOriginalToken t token = .returns { t with originalToken := some original } := by
  cases token with
  | unknown => cases horiginal
  | anonymous details => cases horiginal
  | oauth details =>
      cases horiginal
      rfl
  | refreshed details =>
      simp only [originalToken] at horiginal
      simp [withOriginalToken, horiginal, get]

/-- What is written is a token with the original token of the one before. -/
theorem exists_of_handleResult {result : Outcome Token.Refreshed} {writable : Bool}
    {token : Token} {original : Token.OAuth} {file : τ}
    (horiginal : originalToken token = some original)
    (h : handleResultForRenewedAuthentication storage result writable token =
      .returns (some file)) :
    ∃ t, Token.loadFromJson storage file = .returns (.refreshed t) ∧
      t.originalToken = some original := by
  cases result with
  | error e => cases h
  | ok t =>
      simp only [handleResultForRenewedAuthentication, withOriginalToken_eq horiginal,
        Attempt.returns_bind, Attempt.bind_eq_returns_iff] at h
      obtain ⟨_, -, h⟩ := h
      cases writable with
      | false => cases h
      | true =>
          simp only [if_true, Attempt.bind_eq_returns_iff] at h
          obtain ⟨j, hj, h⟩ := h
          cases h
          exact ⟨_, Token.loadFromJson_dump storage hj, rfl⟩

/-- What a run that succeeds has requested and written. -/
theorem succeed_cases {original : Token.OAuth} {file next : τ}
    {environment : Environment} {renewals : List (Renewal τ)}
    (hholds : Holds storage original file)
    (h : succeed storage file environment = some (next, renewals)) :
    ∃ request t, renewals = [{ request := request, file := next }] ∧
      request.refreshToken = original.refresh ∧
      Token.loadFromJson storage next = .returns (.refreshed t) ∧
      t.originalToken = some original := by
  obtain ⟨token, hload, hrenewable, horiginal⟩ := hholds
  simp only [succeed] at h
  split at h
  · next renewal hrenew =>
      simp only [renew, hload, Attempt.returns_bind, hrenewable, if_true,
        Attempt.bind_eq_returns_iff] at hrenew
      obtain ⟨request, hrequest, written, hwritten, hrenew⟩ := hrenew
      cases written with
      | none => cases hrenew
      | some file' =>
          cases hrenew
          cases h
          obtain ⟨t, ht, hkept⟩ := exists_of_handleResult horiginal hwritten
          rw [renewAuthentication_eq horiginal, Attempt.bind_eq_returns_iff] at hrequest
          obtain ⟨clientId, -, hrequest⟩ := hrequest
          cases hrequest
          exact ⟨_, t, rfl, rfl, ht, hkept⟩
  · cases h

theorem holds_of_loadFromJson {original : Token.OAuth} {file : τ} {t : Token.Refreshed}
    (hload : Token.loadFromJson storage file = .returns (.refreshed t))
    (horiginal : t.originalToken = some original) : Holds storage original file :=
  ⟨.refreshed t, hload, by simp [isRenewable, horiginal], horiginal⟩

theorem holds_dump {original : Token.OAuth} {j : Json} (hrefresh : original.refresh ≠ "")
    (hencode : (Token.oauth original).encode = .returns j) :
    Holds storage original (storage.dump j) :=
  ⟨.oauth original, Token.loadFromJson_dump storage hencode, by simpa [isRenewable], rfl⟩

/-- In every sequence of runs that succeed, from the file of a token with a refresh
token on, each run sends the refresh token of this token, and leaves a file from
which a token with it as the original token is loaded, which the next run takes. -/
theorem renewals_keep_original {original : Token.OAuth} {j : Json}
    (hrefresh : original.refresh ≠ "") (hencode : (Token.oauth original).encode = .returns j)
    {environments : List Environment} {last : τ} {renewals : List (Renewal τ)}
    (hrun : tryFeed (succeed storage) (storage.dump j) environments =
      some (last, renewals)) :
    ∀ renewal ∈ renewals, renewal.request.refreshToken = original.refresh ∧
      ∃ t, Token.loadFromJson storage renewal.file = .returns (.refreshed t) ∧
        t.originalToken = some original ∧ isRenewable (.refreshed t) := by
  refine (tryFeed_invariant (Holds storage original) _ ?_
    (holds_dump hrefresh hencode) hrun).2
  intro file environment next out hholds hsucceed
  obtain ⟨request, t, rfl, hrequest, hload, horiginal⟩ := succeed_cases hholds hsucceed
  refine ⟨holds_of_loadFromJson hload horiginal, fun renewal hmem => ?_⟩
  cases List.mem_singleton.mp hmem
  exact ⟨hrequest, t, hload, horiginal, by simp [isRenewable, horiginal]⟩

/-- There is a client id, the server answers with a token whose members have a value, and
the file can be written. -/
structure Environment.Answers (environment : Environment) : Prop where
  clientId : environment.clientId.isSome
  result : ∃ t, environment.result = .ok t ∧ t.type.isSome ∧ t.expiresIn.isSome
  writable : environment.writable = true

/-- Such a run succeeds. -/
theorem exists_succeed {original : Token.OAuth} {file : τ} {environment : Environment}
    (hholds : Holds storage original file) (hinitialized : original.IsInitialized)
    (hanswers : environment.Answers) :
    ∃ renewal, succeed storage file environment = some (renewal.file, [renewal]) := by
  obtain ⟨token, hload, hrenewable, horiginal⟩ := hholds
  obtain ⟨clientId, hclientId⟩ := Option.isSome_iff_exists.mp hanswers.clientId
  obtain ⟨t, hresult, htype, hexpiresIn⟩ := hanswers.result
  have hnext : Token.IsInitialized (.refreshed { t with originalToken := some original }) :=
    { type := htype
      expiresIn := hexpiresIn
      originalToken := fun _ heq => Option.some.inj heq ▸ hinitialized }
  obtain ⟨j, hj⟩ := Token.exists_encode_iff.mpr hnext
  obtain ⟨seconds, hseconds⟩ := Option.isSome_iff_exists.mp hexpiresIn
  rw [hseconds] at hj
  have hrenew : renew storage file environment = .returns (some
      { request := { clientId, refreshToken := original.refresh }
        file := storage.dump j }) := by
    simp [renew, hload, hrenewable, renewAuthentication_eq horiginal, hclientId, get,
      handleResultForRenewedAuthentication, hresult, withOriginalToken_eq horiginal,
      hseconds, hanswers.writable, hj]
  exact ⟨_, by rw [succeed, hrenew]⟩

/-- Any number of such runs succeed, one after the other. -/
theorem exists_run_succeed {original : Token.OAuth} {file : τ}
    {environments : List Environment} (hholds : Holds storage original file)
    (hinitialized : original.IsInitialized)
    (hanswers : ∀ environment ∈ environments, environment.Answers) :
    ∃ last renewals, tryFeed (succeed storage) file environments = some (last, renewals) ∧
      renewals.length = environments.length := by
  induction environments generalizing file with
  | nil => exact ⟨file, [], rfl, rfl⟩
  | cons environment environments ih =>
      obtain ⟨renewal, hsucceed⟩ :=
        exists_succeed hholds hinitialized (hanswers environment (by simp))
      obtain ⟨request, t, -, -, hload, horiginal⟩ := succeed_cases hholds hsucceed
      obtain ⟨last, renewals, hrun, hlength⟩ := ih (holds_of_loadFromJson hload horiginal)
        fun other hother => hanswers other (by simp [hother])
      exact ⟨last, renewal :: renewals, by simp [tryFeed, hsucceed, hrun], by simp [hlength]⟩

/-- A storage that keeps documents as they are parsed. -/
def documents : Json.Storage Json where
  dump := id
  parse := fun j => .ok j.reparsed
  parse_dump := fun _ _ => rfl

def original : Token.OAuth :=
  { type := some .bearer, refresh := "refresh", id := "id", access := "access" }

def originalDocument : Json :=
  .object
    [("oauth", .object
        [("access_token", .string "access"), ("id_token", .string "id"),
          ("refresh_token", .string "refresh"), ("token_type", .string "bearer")]),
      ("type", .string "oauth")]

/-- An answer of the server, with an original token of its own. -/
def answer : Environment where
  clientId := some "client"
  result := .ok
    { type := some .bearer
      expiresIn := some 3600
      id := "next"
      originalToken := some { original with refresh := "other" } }

theorem exists_run_answers :
    ∃ last renewals, tryFeed (succeed documents) (documents.dump originalDocument)
        [answer, answer] = some (last, renewals) ∧ renewals.length = 2 := by
  have hholds : Holds documents original (documents.dump originalDocument) :=
    holds_dump (by decide) rfl
  have hanswer : answer.Answers := ⟨rfl, ⟨_, rfl, rfl, rfl⟩, rfl⟩
  exact exists_run_succeed hholds rfl (by simp [hanswer])

/-- Two renewals in a row. -/
theorem two_renewals_keep_original :
    ∃ last renewals, tryFeed (succeed documents) (documents.dump originalDocument)
        [answer, answer] = some (last, renewals) ∧ renewals.length = 2 ∧
      ∀ renewal ∈ renewals, renewal.request.refreshToken = original.refresh ∧
        ∃ t, Token.loadFromJson documents renewal.file = .returns (.refreshed t) ∧
          t.originalToken = some original ∧ isRenewable (.refreshed t) := by
  obtain ⟨last, renewals, hrun, hlength⟩ := exists_run_answers
  exact ⟨last, renewals, hrun, hlength,
    renewals_keep_original (by decide) (j := originalDocument) rfl hrun⟩

end Airmap.Cmd.Login
