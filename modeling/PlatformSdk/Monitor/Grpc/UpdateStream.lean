import PlatformSdk.Machine.Observation
import PlatformSdk.Machine.Simulation
import PlatformSdk.Machine.Subscribers
import PlatformSdk.Monitor.Grpc.Client

/-!
# The stream of updates of a client

What an invocation dispatches is executed by the context of its client, task after task:
the callback is given an `UpdateStream`, and its receivers are handed each update that was
read.  The module shows what a receiver is handed.
-/

namespace Airmap.Monitor.Grpc.Client

open Machine (feed feed_append filterMap_concat_none filterMap_concat_some insertSubscriber
  observations operate outputsOf received)

variable {ρ ω υ : Type*}

/-- `Client::UpdateStreamImpl`. -/
structure UpdateStreamImpl (ρ : Type*) where
  receivers : List ρ := []

namespace UpdateStreamImpl

def subscribe [DecidableEq ρ] (receiver : ρ) (s : UpdateStreamImpl ρ) :
    UpdateStreamImpl ρ :=
  { s with receivers := insertSubscriber receiver s.receivers }

def unsubscribe [DecidableEq ρ] (receiver : ρ) (s : UpdateStreamImpl ρ) :
    UpdateStreamImpl ρ :=
  { s with receivers := s.receivers.erase receiver }

/-- `UpdateStreamImpl::write_update`, which calls the receivers of a copy of the set. -/
def writeUpdate (update : List υ) (s : UpdateStreamImpl ρ) : List (ρ × List υ) :=
  let copy := s.receivers
  copy.map fun receiver => (receiver, update)

end UpdateStreamImpl

/-- The updates that a task is for. -/
def Task.update : Task υ → Option (List υ)
  | .result _ => none
  | .writeUpdate traffic => some traffic

/-- The connection of a client: its invocation, the number of the tasks of the invocation
that the context executed, the stream, and whether the callback was given it. -/
structure Connection (ρ ω υ : Type*) where
  invocation : ConnectToUpdatesInvocation ω υ := .start
  executed : ℕ := 0
  updateStream : UpdateStreamImpl ρ := {}
  given : Bool := false

namespace Connection

/-- What can happen to a connection: an operation of its stream completes, the context
executes a task, or the user subscribes or unsubscribes a receiver. -/
inductive Event (ρ ω : Type*) where
  | proceed (event : Client.Event ω)
  | execute
  | subscribe (receiver : ρ)
  | unsubscribe (receiver : ρ)

variable (decode : ω → υ)

def step [DecidableEq ρ] (c : Connection ρ ω υ) : Event ρ ω → Option (Connection ρ ω υ)
  | .proceed event =>
      (c.invocation.step decode event).map fun invocation => { c with invocation := invocation }
  | .execute =>
      match c.invocation.dispatched[c.executed]? with
      | none => none
      | some (.result (.ok _)) => some { c with executed := c.executed + 1, given := true }
      | some (.result (.error _)) | some (.writeUpdate _) =>
          some { c with executed := c.executed + 1 }
  | .subscribe receiver =>
      if c.given then some { c with updateStream := c.updateStream.subscribe receiver }
      else none
  | .unsubscribe receiver =>
      if c.given then some { c with updateStream := c.updateStream.unsubscribe receiver }
      else none

/-- The updates that were read, and whose tasks the context did not execute yet. -/
def waiting (c : Connection ρ ω υ) : List (List υ) :=
  (c.invocation.dispatched.drop c.executed).filterMap Task.update

/-- What a step shows: what it does with the stream, or the call of a receiver. -/
inductive Observation (ρ υ : Type*) where
  | stream (operation : Machine.Operation ρ (List υ))
  | handed (receiver : ρ) (update : List υ)

def observe (c : Connection ρ ω υ) : Event ρ ω → List (Observation ρ υ)
  | .proceed _ => []
  | .execute =>
      match c.invocation.dispatched[c.executed]?.bind Task.update with
      | none => []
      | some update =>
          .stream (.publish update) ::
            (c.updateStream.writeUpdate update).map fun call => .handed call.1 call.2
  | .subscribe receiver => [.stream (.subscribe receiver)]
  | .unsubscribe receiver => [.stream (.unsubscribe receiver)]

/-- What was done with the stream. -/
def Observation.operation : Observation ρ υ → Option (Machine.Operation ρ (List υ))
  | .stream operation => some operation
  | .handed _ _ => none

/-- The update that a receiver was handed. -/
def Observation.handedTo [DecidableEq ρ] (receiver : ρ) : Observation ρ υ → Option (List υ)
  | .stream _ => none
  | .handed other update => if other = receiver then some update else none

@[simp] theorem operation_stream (operation : Machine.Operation ρ (List υ)) :
    (Observation.stream operation).operation = some operation := rfl

@[simp] theorem operation_handed (receiver : ρ) (update : List υ) :
    (Observation.handed receiver update).operation = none := rfl

@[simp] theorem handedTo_stream [DecidableEq ρ] (receiver : ρ)
    (operation : Machine.Operation ρ (List υ)) :
    (Observation.stream operation).handedTo receiver = none := rfl

/-! ## Every step -/

/-- The calls that an operation on the stream makes. -/
def calls (handed : List (ρ × List υ)) : List (Observation ρ υ) :=
  handed.map fun call => .handed call.1 call.2

theorem filterMap_handedTo_calls [DecidableEq ρ] (receiver : ρ) (handed : List (ρ × List υ)) :
    (calls handed).filterMap (Observation.handedTo receiver) = outputsOf receiver handed := by
  induction handed with
  | nil => rfl
  | cons call handed ih =>
      by_cases h : call.1 = receiver
      · have hsome : (Observation.handed call.1 call.2).handedTo receiver = some call.2 :=
          if_pos h
        rw [calls, List.map_cons, List.filterMap_cons_some hsome, ← calls, ih]
        simp [outputsOf, h]
      · have hnone : (Observation.handed call.1 call.2).handedTo receiver = none := if_neg h
        rw [calls, List.map_cons, List.filterMap_cons_none hnone, ← calls, ih]
        simp [outputsOf, h]

@[simp] theorem filterMap_operation_calls (handed : List (ρ × List υ)) :
    (calls handed).filterMap Observation.operation = [] := by
  simp [calls]

variable [DecidableEq ρ] {decode : ω → υ} {c c' : Connection ρ ω υ}

/-- The receivers are what the operations on the stream make of them and are handed what
these hand to them; what was published is what the context executed. -/
structure Hands (shown : List (Observation ρ υ)) (c : Connection ρ ω υ) : Prop where
  waits : c.invocation.IsWaiting
  executed : c.executed ≤ c.invocation.dispatched.length
  receivers : c.updateStream.receivers =
    (feed operate [] (shown.filterMap Observation.operation)).1
  handed : ∀ receiver, shown.filterMap (Observation.handedTo receiver) =
    outputsOf receiver (feed operate [] (shown.filterMap Observation.operation)).2
  published : (shown.filterMap Observation.operation).filterMap Machine.Operation.published =
    (c.invocation.dispatched.take c.executed).filterMap Task.update

theorem hands_start : Hands [] ({} : Connection ρ ω υ) where
  waits := ConnectToUpdatesInvocation.isWaiting_start
  executed := Nat.zero_le _
  receivers := rfl
  handed := fun _ => rfl
  published := rfl

/-- A step that shows nothing. -/
theorem Hands.quiet {shown : List (Observation ρ υ)} (h : Hands shown c)
    (hwaits : c'.invocation.IsWaiting)
    (hexecuted : c'.executed ≤ c'.invocation.dispatched.length)
    (hreceivers : c'.updateStream = c.updateStream)
    (hpublished : (c'.invocation.dispatched.take c'.executed).filterMap Task.update =
      (c.invocation.dispatched.take c.executed).filterMap Task.update) : Hands shown c' where
  waits := hwaits
  executed := hexecuted
  receivers := by rw [hreceivers, h.receivers]
  handed := h.handed
  published := by rw [h.published, hpublished]

/-- An operation on the stream. -/
theorem Hands.operate {shown : List (Observation ρ υ)} (h : Hands shown c)
    (operation : Machine.Operation ρ (List υ)) (hwaits : c'.invocation.IsWaiting)
    (hexecuted : c'.executed ≤ c'.invocation.dispatched.length)
    (hreceivers : c'.updateStream.receivers =
      (Machine.operate c.updateStream.receivers operation).1)
    (hpublished : (c'.invocation.dispatched.take c'.executed).filterMap Task.update =
      (c.invocation.dispatched.take c.executed).filterMap Task.update ++
        [operation].filterMap Machine.Operation.published) :
    Hands (shown ++ .stream operation ::
      calls (Machine.operate c.updateStream.receivers operation).2) c' := by
  have hoperations : (shown ++ .stream operation ::
      calls (Machine.operate c.updateStream.receivers operation).2).filterMap
        Observation.operation = shown.filterMap Observation.operation ++ [operation] := by
    simp
  refine ⟨hwaits, hexecuted, ?_, ?_, ?_⟩
  · rw [hoperations, feed_append, ← h.receivers, hreceivers]
    rfl
  · intro receiver
    rw [hoperations, feed_append, ← h.receivers, List.filterMap_append, h.handed,
      List.filterMap_cons_none (handedTo_stream receiver operation), filterMap_handedTo_calls,
      Machine.outputsOf_append]
    simp only [Machine.feed_cons, Machine.feed_nil, List.append_nil]
  · rw [hoperations, List.filterMap_append, h.published, hpublished]

/-- The context executes the next task. -/
theorem Hands.execute {shown : List (Observation ρ υ)} (h : Hands shown c)
    (hstep : c.step decode .execute = some c') : Hands (shown ++ c.observe .execute) c' := by
  simp only [step] at hstep
  have htake {task : Task υ} (htask : c.invocation.dispatched[c.executed]? = some task) :
      c.invocation.dispatched.take (c.executed + 1) =
        c.invocation.dispatched.take c.executed ++ [task] := by
    rw [List.take_add_one, htask, Option.toList_some]
  have hlt {task : Task υ} (htask : c.invocation.dispatched[c.executed]? = some task) :
      c.executed + 1 ≤ c.invocation.dispatched.length :=
    (List.getElem?_eq_some_iff.mp htask).1
  split at hstep
  · cases hstep
  · next htask =>
      cases hstep
      rw [observe, htask]
      refine (List.append_nil shown).symm ▸ h.quiet h.waits (hlt htask) rfl ?_
      rw [htake htask, filterMap_concat_none rfl]
  · next htask =>
      cases hstep
      rw [observe, htask]
      refine (List.append_nil shown).symm ▸ h.quiet h.waits (hlt htask) rfl ?_
      rw [htake htask, filterMap_concat_none rfl]
  · next update htask =>
      cases hstep
      rw [observe, htask]
      refine h.operate (.publish update) h.waits (hlt htask) rfl ?_
      rw [htake htask, List.filterMap_append]
      rfl

theorem Hands.step {shown : List (Observation ρ υ)} {event : Event ρ ω} (h : Hands shown c)
    (hstep : c.step decode event = some c') : Hands (shown ++ c.observe event) c' := by
  cases event with
  | proceed event =>
      obtain ⟨invocation, hinvocation, rfl⟩ := Option.map_eq_some_iff.mp hstep
      have hcases := ConnectToUpdatesInvocation.step_cases h.waits hinvocation
      rw [observe, List.append_nil]
      refine h.quiet (hcases.isWaiting h.waits) ?_ rfl ?_
      · rw [hcases.dispatched, List.length_append]
        exact Nat.le_add_right_of_le h.executed
      · rw [hcases.dispatched, List.take_append_of_le_length h.executed]
  | execute => exact h.execute hstep
  | subscribe receiver =>
      simp only [Connection.step] at hstep
      split at hstep
      · cases hstep
        refine h.operate (.subscribe receiver) h.waits h.executed rfl ?_
        exact (List.append_nil _).symm
      · cases hstep
  | unsubscribe receiver =>
      simp only [Connection.step] at hstep
      split at hstep
      · cases hstep
        refine h.operate (.unsubscribe receiver) h.waits h.executed rfl ?_
        exact (List.append_nil _).symm
      · cases hstep

/-- What was published, and what waits to be, is what the invocation dispatched. -/
theorem Hands.published_append_waiting {shown : List (Observation ρ υ)} (h : Hands shown c) :
    (shown.filterMap Observation.operation).filterMap Machine.Operation.published ++
        c.waiting = c.invocation.dispatched.filterMap Task.update := by
  rw [h.published, waiting, ← List.filterMap_append, List.take_append_drop]

/-- A receiver is handed what is published while it is subscribed. -/
theorem Hands.handed_eq {shown : List (Observation ρ υ)} (h : Hands shown c)
    (receiver : ρ) :
    shown.filterMap (Observation.handedTo receiver) =
      received receiver false (shown.filterMap Observation.operation) := by
  rw [h.handed, Machine.outputsOf_feed_operate List.nodup_nil]
  rfl

end Connection
end Airmap.Monitor.Grpc.Client
