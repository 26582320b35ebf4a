import Mathlib.Logic.Function.Iterate
import PlatformSdk.Net.Http.Response

/-!
# The asynchronous HTTP request

`net::http::boost`: a `Requester` resolves the host and starts a `Request`,
which connects, shakes hands if it encrypts, writes and reads.  One operation
is under way at a time, and its handler either starts the next one or calls the
callback.  `delete_`, `get`, `patch` and `post` differ in the message alone.
-/

namespace Airmap.Net.Http.Boost

/-- What `request_factory_for_protocol` tells apart. -/
inductive Protocol where
  | http
  | https
  deriving DecidableEq, Repr

/-- The asynchronous operations of a request. -/
inductive Operation where
  | resolve
  | connect
  | handshake
  | write
  | read
  deriving DecidableEq, Repr

/-- How each operation ends: in the message of its error code, or without an
error; `read` then has a response. -/
structure Network where
  resolve : Option String
  connect : Option String
  handshake : Option String
  write : Option String
  read : Except String Response

/-- A request, with the operation that is under way and what its callback
acts on. -/
structure Exchange (σ : Type*) where
  pending : Option Operation
  user : σ

variable {σ : Type*} (callback : Outcome Response → σ → σ)

/-- `wrap_error_code`. -/
def wrapErrorCode (message : String) : Error := { message := message }

namespace Exchange

/-- The callback is called and nothing is started. -/
def finish (result : Outcome Response) (x : Exchange σ) : Exchange σ where
  pending := none
  user := callback result x.user

/-- A handler goes on to the next operation unless there is an error. -/
def proceed (next : Operation) (failure : Option String) (x : Exchange σ) :
    Exchange σ :=
  match failure with
  | some message => x.finish callback (.error (wrapErrorCode message))
  | none => { x with pending := some next }

/-- The four functions of `Requester`: resolve the host. -/
def request (user : σ) : Exchange σ where
  pending := some .resolve
  user := user

/-- The handler of `async_resolve`; `Request::start` connects. -/
def handleResolve (failure : Option String) (x : Exchange σ) : Exchange σ :=
  x.proceed callback .connect failure

/-- `handle_connect`, which only differs in what comes next. -/
def handleConnect (protocol : Protocol) (failure : Option String)
    (x : Exchange σ) : Exchange σ :=
  match protocol with
  | .http => x.proceed callback .write failure
  | .https => x.proceed callback .handshake failure

def handleSslHandshake (failure : Option String) (x : Exchange σ) : Exchange σ :=
  x.proceed callback .write failure

def handleWrite (failure : Option String) (x : Exchange σ) : Exchange σ :=
  x.proceed callback .read failure

/-- The headers of the response are dropped. -/
def handleRead (read : Except String Response) (x : Exchange σ) : Exchange σ :=
  match read with
  | .error message => x.finish callback (.error (wrapErrorCode message))
  | .ok response => x.finish callback (.ok { response with headers := [] })

/-- The operation that is under way ends. -/
def step (protocol : Protocol) (network : Network) (x : Exchange σ) : Exchange σ :=
  match x.pending with
  | none => x
  | some .resolve => x.handleResolve callback network.resolve
  | some .connect => x.handleConnect callback protocol network.connect
  | some .handshake => x.handleSslHandshake callback network.handshake
  | some .write => x.handleWrite callback network.write
  | some .read => x.handleRead callback network.read

/-- The request after at most `n` operations. -/
def perform (protocol : Protocol) (network : Network) (user : σ) (n : ℕ) :
    Exchange σ :=
  (step callback protocol network)^[n] (request user)

end Exchange

/-! ## The result of a request -/

/-- The operations of a request in their order. -/
def Protocol.operations : Protocol → List Operation
  | .http => [.resolve, .connect, .write, .read]
  | .https => [.resolve, .connect, .handshake, .write, .read]

namespace Network

/-- The error of an operation. -/
def failure (network : Network) : Operation → Option String
  | .resolve => network.resolve
  | .connect => network.connect
  | .handshake => network.handshake
  | .write => network.write
  | .read =>
      match network.read with
      | .error message => some message
      | .ok _ => none

/-- The error of the first operation that fails, or the response. -/
def result (protocol : Protocol) (network : Network) : Outcome Response :=
  match protocol.operations.findSome? network.failure with
  | some message => .error (wrapErrorCode message)
  | none =>
      match network.read with
      | .error message => .error (wrapErrorCode message)
      | .ok response => .ok { response with headers := [] }

end Network

/-- The operations that come before one. -/
def Protocol.before (protocol : Protocol) (op : Operation) : List Operation :=
  protocol.operations.takeWhile (· ≠ op)

variable {callback} {protocol : Protocol} {network : Network} {user : σ}

theorem Protocol.operations_eq {op : Operation} (hop : op ∈ protocol.operations) :
    ∃ rest, protocol.operations = protocol.before op ++ op :: rest := by
  cases protocol <;> cases op <;>
    first | exact ⟨_, rfl⟩ | exact absurd hop (by decide)

/-- A failure after operations that all succeeded is the result. -/
theorem Network.result_of_failure {op : Operation} {message : String}
    (hop : op ∈ protocol.operations)
    (hbefore : ∀ earlier ∈ protocol.before op, network.failure earlier = none)
    (hfails : network.failure op = some message) :
    network.result protocol = .error (wrapErrorCode message) := by
  obtain ⟨rest, hrest⟩ := Protocol.operations_eq hop
  have hnone : (protocol.before op).findSome? network.failure = none :=
    List.findSome?_eq_none_iff.mpr hbefore
  have hfirst : protocol.operations.findSome? network.failure = some message := by
    rw [hrest, List.findSome?_append, hnone, List.findSome?_cons, hfails]
    rfl
  simp only [Network.result, hfirst]

namespace Exchange

/-- Where the request is: no operation failed so far and the callback was not
called, or it is over and the callback was called with its result. -/
def Consistent (callback : Outcome Response → σ → σ) (protocol : Protocol)
    (network : Network) (user : σ) (x : Exchange σ) : Prop :=
  match x.pending with
  | none => x.user = callback (network.result protocol) user
  | some op => x.user = user ∧ op ∈ protocol.operations ∧
      ∀ earlier ∈ protocol.before op, network.failure earlier = none

theorem consistent_request :
    (request user).Consistent callback protocol network user := by
  refine ⟨rfl, ?_, ?_⟩
  · cases protocol <;> decide
  · cases protocol <;> simp [Protocol.before, Protocol.operations]

/-- A handler that proceeds keeps the request consistent. -/
theorem consistent_proceed {op next : Operation} {x : Exchange σ}
    (hpending : x.pending = some op)
    (h : x.Consistent callback protocol network user)
    (hnext : next ∈ protocol.operations)
    (hbefore : protocol.before next = protocol.before op ++ [op]) :
    (x.proceed callback next (network.failure op)).Consistent callback protocol
      network user := by
  simp only [Consistent, hpending] at h
  obtain ⟨huser, hop, hpassed⟩ := h
  cases hfailure : network.failure op with
  | some message =>
      have hresult := Network.result_of_failure hop hpassed hfailure
      simp only [Consistent, proceed, finish, huser, hresult]
  | none =>
      refine ⟨huser, hnext, ?_⟩
      rw [hbefore]
      intro earlier hearlier
      rcases List.mem_append.mp hearlier with hold | hthis
      · exact hpassed earlier hold
      · rw [List.mem_singleton.mp hthis]
        exact hfailure

/-- The handler of the last operation ends the request with its result. -/
theorem consistent_handleRead {x : Exchange σ} (hpending : x.pending = some .read)
    (h : x.Consistent callback protocol network user) :
    (x.handleRead callback network.read).Consistent callback protocol network
      user := by
  simp only [Consistent, hpending] at h
  obtain ⟨huser, hop, hpassed⟩ := h
  cases hread : network.read with
  | error message =>
      have hfails : network.failure .read = some message := by
        simp only [Network.failure, hread]
      have hresult := Network.result_of_failure hop hpassed hfails
      simp only [Consistent, handleRead, finish, huser, hresult]
  | ok response =>
      have hnone : protocol.operations.findSome? network.failure = none := by
        rw [List.findSome?_eq_none_iff]
        have hlast : protocol.operations = protocol.before .read ++ [.read] := by
          cases protocol <;> rfl
        rw [hlast]
        intro op hmem
        rcases List.mem_append.mp hmem with hold | hthis
        · exact hpassed op hold
        · rw [List.mem_singleton.mp hthis]
          simp [Network.failure, hread]
      simp only [Consistent, handleRead, finish, huser, Network.result, hnone, hread]

/-- One handler keeps the request consistent. -/
theorem Consistent.step {x : Exchange σ}
    (h : x.Consistent callback protocol network user) :
    (x.step callback protocol network).Consistent callback protocol network user := by
  rw [Exchange.step]
  cases hpending : x.pending with
  | none => exact h
  | some op =>
      cases op with
      | resolve =>
          apply consistent_proceed hpending h <;> cases protocol <;> decide
      | connect =>
          cases protocol with
          | http => exact consistent_proceed hpending h (by decide) (by decide)
          | https => exact consistent_proceed hpending h (by decide) (by decide)
      | handshake =>
          cases protocol with
          | http =>
              simp only [Consistent, hpending] at h
              exact absurd h.2.1 (by decide)
          | https => exact consistent_proceed hpending h (by decide) (by decide)
      | write =>
          apply consistent_proceed hpending h <;> cases protocol <;> decide
      | read => exact consistent_handleRead hpending h

theorem consistent_perform (n : ℕ) :
    (perform callback protocol network user n).Consistent callback protocol network
      user := by
  induction n with
  | zero => exact consistent_request
  | succ n ih =>
      rw [perform, Function.iterate_succ_apply', ← perform]
      exact ih.step

/-! ## A request ends -/

/-- How many operations are left at most. -/
def remaining (x : Exchange σ) : ℕ :=
  match x.pending with
  | none => 0
  | some .read => 1
  | some .write => 2
  | some .handshake => 3
  | some .connect => 4
  | some .resolve => 5

theorem remaining_proceed_le {next : Operation} {failure : Option String}
    (x : Exchange σ) :
    (x.proceed callback next failure).remaining ≤
      remaining { x with pending := some next } := by
  cases failure with
  | none => exact Nat.le_refl _
  | some message => exact Nat.zero_le _

theorem remaining_step_le (x : Exchange σ) :
    (x.step callback protocol network).remaining ≤ x.remaining - 1 := by
  rw [Exchange.step]
  cases hpending : x.pending with
  | none => simp [remaining, hpending]
  | some op =>
      cases op with
      | resolve =>
          exact Nat.le_trans (remaining_proceed_le x) (by simp [remaining, hpending])
      | connect =>
          cases protocol with
          | http =>
              exact Nat.le_trans (remaining_proceed_le x)
                (by simp [remaining, hpending])
          | https =>
              exact Nat.le_trans (remaining_proceed_le x)
                (by simp [remaining, hpending])
      | handshake =>
          exact Nat.le_trans (remaining_proceed_le x) (by simp [remaining, hpending])
      | write =>
          exact Nat.le_trans (remaining_proceed_le x) (by simp [remaining, hpending])
      | read =>
          cases hread : network.read <;> simp [handleRead, finish, remaining]

theorem remaining_perform_le (n : ℕ) :
    (perform callback protocol network user n).remaining ≤ 5 - n := by
  induction n with
  | zero => exact Nat.le_refl _
  | succ n ih =>
      rw [perform, Function.iterate_succ_apply', ← perform]
      have hless : 5 - n - 1 = 5 - (n + 1) := by omega
      rw [← hless]
      exact Nat.le_trans (remaining_step_le _) (Nat.sub_le_sub_right ih 1)

theorem pending_eq_none {x : Exchange σ} (h : x.remaining = 0) :
    x.pending = none := by
  obtain ⟨pending, current⟩ := x
  cases pending with
  | none => rfl
  | some op => cases op <;> cases h

/-- From the fifth operation on, the request is over and the callback was called
once, with its result. -/
theorem perform_eq (callback : Outcome Response → σ → σ) (protocol : Protocol)
    (network : Network) (user : σ) (n : ℕ) :
    perform callback protocol network user (5 + n) =
      { pending := none, user := callback (network.result protocol) user } := by
  have hconsistent : (perform callback protocol network user (5 + n)).Consistent
      callback protocol network user := consistent_perform _
  have hover : (perform callback protocol network user (5 + n)).pending = none := by
    apply pending_eq_none
    have hle : (perform callback protocol network user (5 + n)).remaining ≤
        5 - (5 + n) := remaining_perform_le _
    omega
  simp only [Consistent, hover] at hconsistent
  rw [← hover, ← hconsistent]

end Exchange
end Airmap.Net.Http.Boost
