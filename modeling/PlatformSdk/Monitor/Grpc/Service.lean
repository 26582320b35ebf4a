import Mathlib.Logic.Function.Basic
import PlatformSdk.Grpc.Executor
import PlatformSdk.Machine.History
import PlatformSdk.Machine.Run

/-!
# The service that streams traffic updates

`Service::ConnectToUpdates` is one invocation of the method by a client, and
the tag of all operations on its stream.  The module runs all invocations of a
service together with the `FanOutTrafficMonitor` that they subscribe to, the
completion queue, and the context that executes their `proceed`.  A traffic
update is handed out on the thread of the context, in one piece.
-/

namespace Airmap.Monitor.Grpc

open Airmap.Grpc (Completion MethodInvocation.State)

/-- The operations of an invocation that the queue yields a completion for. -/
inductive Operation (ω : Type*) where
  | request
  | write (update : List ω)
  | finish
  deriving DecidableEq

/-- The operation goes to the `ServerAsyncWriter`. -/
def Operation.writes {ω : Type*} : Operation ω → Bool
  | .request => false
  | .write _ | .finish => true

/-- What reaches an invocation, and its end: the deletion notes how many other
operations with its tag are outstanding. -/
inductive Entry where
  | completion (invocation : ℕ)
  | update (invocation : ℕ)
  | deleted (invocation : ℕ) (others : ℕ)
  deriving DecidableEq

/-- A service.  Invocations are numbered in the order of their creation, and
there is no state for one that was not made yet or that deleted itself.  A
subscriber of the traffic monitor is known by its invocation. -/
structure Service (ω : Type*) where
  created : ℕ := 0
  state : ℕ → Option MethodInvocation.State := fun _ => none
  subscribers : List ℕ := []
  outstanding : List (ℕ × Operation ω) := []
  /-- The calls of `proceed` that the context did not execute yet. -/
  posted : List (ℕ × Bool) := []
  /-- `server::Executor::run` is in its loop. -/
  running : Bool := false
  history : List Entry := []

namespace Service

variable {υ ω : Type*} (encode : υ → ω)

def record (entry : Entry) (s : Service ω) : Service ω :=
  { s with history := entry :: s.history }

def issue (k : ℕ) (operation : Operation ω) (s : Service ω) : Service ω :=
  { s with outstanding := s.outstanding ++ [(k, operation)] }

def setState (k : ℕ) (state : Option MethodInvocation.State) (s : Service ω) :
    Service ω :=
  { s with state := Function.update s.state k state }

/-- The operations with the tag of an invocation, whose completion it still has
to see. -/
def pending (s : Service ω) (k : ℕ) : ℕ :=
  s.outstanding.countP (·.1 = k) + s.posted.countP (·.1 = k)

/-- The operations that the writer of an invocation has to complete. -/
def writers (s : Service ω) (k : ℕ) : ℕ :=
  s.outstanding.countP fun operation => operation.1 = k ∧ operation.2.writes

/-! ## The traffic monitor -/

/-- `FanOutTrafficMonitor::subscribe`. -/
def subscribe (k : ℕ) (s : Service ω) : Service ω :=
  { s with subscribers := s.subscribers.insert k }

/-- `FanOutTrafficMonitor::unsubscribe`. -/
def unsubscribe (k : ℕ) (s : Service ω) : Service ω :=
  { s with subscribers := s.subscribers.erase k }

/-- `ConnectToUpdates::Subscriber::handle_update`, which writes to the
invocation. -/
def write (updates : List υ) (k : ℕ) (s : Service ω) : Service ω :=
  (s.record (.update k)).issue k (.write (updates.map encode))

/-- `FanOutTrafficMonitor::handle_update`. -/
def handleUpdate (updates : List υ) (s : Service ω) : Service ω :=
  s.subscribers.foldl (fun s k => s.write encode updates k) s

/-! ## The invocations -/

/-- `ConnectToUpdates::start_listening`. -/
def startListening (s : Service ω) : Service ω :=
  ({ s with created := s.created + 1 }.setState s.created (some .ready)).issue
    s.created .request

/-- The stream is cancelled. -/
def finish (k : ℕ) (s : Service ω) : Service ω :=
  (s.setState k (some .finished)).issue k .finish

/-- `ConnectToUpdates::proceed`.  There is no answer for an object that was
deleted. -/
def proceed (k : ℕ) (result : Bool) (s : Service ω) : Service ω :=
  let s := s.record (.completion k)
  match s.state k with
  | none => s
  | some .ready =>
      let s := s.startListening
      if result then (s.setState k (some .streaming)).subscribe k
      else s.finish k
  | some .streaming => if result then s else (s.unsubscribe k).finish k
  | some .finished => (s.record (.deleted k (s.pending k))).setState k none

/-- What can happen to a service: its executor is run, the completion queue
yields the `i`-th outstanding operation, the context executes the task that was
posted first, or an update arrives. -/
inductive Event (υ : Type*) where
  | run
  | next (i : ℕ) (ok : Bool)
  | turn
  | update (updates : List υ)

def step (s : Service ω) : Event υ → Option (Service ω)
  | .run => if s.running then none else some { s with running := true }
  | .next i ok =>
      match s.running, s.outstanding[i]? with
      | true, some (k, _) =>
          let event : Completion ℕ := ⟨some k, ok⟩
          some { s with
            outstanding := s.outstanding.eraseIdx i
            posted := s.posted ++ event.dispatch
            running := Airmap.Grpc.Server.proceeds event }
      | _, _ => none
  | .turn =>
      match s.posted with
      | [] => none
      | (k, result) :: rest => some ({ s with posted := rest }.proceed k result)
  | .update updates => some (s.handleUpdate encode updates)

/-- `Service::start`. -/
def start : Service ω := ({} : Service ω).startListening

end Service
end Airmap.Monitor.Grpc
