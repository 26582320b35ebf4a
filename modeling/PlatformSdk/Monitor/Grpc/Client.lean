import PlatformSdk.Grpc.Executor
import PlatformSdk.Machine.Run
import PlatformSdk.Outcome

/-!
# The client of the stream of updates

`Client::ConnectToUpdatesInvocation` connects to the service, reads updates
until a read fails, and deletes itself once the stream is finished.  It is the
tag of each operation that it starts, and one operation follows the other.
-/

namespace Airmap.Monitor.Grpc.Client

open Airmap.Grpc (MethodInvocation.State)

/-- The operations under the tag of an invocation. -/
inductive Operation where
  | connect
  | read
  | finish
  deriving DecidableEq

/-- What is dispatched to the context: the call of the user's callback, or an
update for the receivers of the stream. -/
inductive Task (υ : Type*) where
  | result (result : Outcome Unit)
  | writeUpdate (traffic : List υ)

def Task.isResult {υ : Type*} : Task υ → Bool
  | .result _ => true
  | .writeUpdate _ => false

/-- How an operation ended.  A read that succeeds leaves its element in
`element_`; the status of the stream is never looked at. -/
inductive Event (ω : Type*) where
  | connected (ok : Bool)
  | read (element : Option (List ω))
  | finished (status : ℕ) (ok : Bool)

namespace Event

variable {ω : Type*}

/-- The operation that the event answers. -/
def operation : Event ω → Operation
  | .connected _ => .connect
  | .read _ => .read
  | .finished _ _ => .finish

def ok : Event ω → Bool
  | .connected ok => ok
  | .read element => element.isSome
  | .finished _ ok => ok

def element (current : List ω) : Event ω → List ω
  | .read (some element) => element
  | _ => current

def isFinished : Event ω → Bool
  | .finished _ _ => true
  | _ => false

end Event

/-- `ConnectToUpdatesInvocation`, with the operations that did not complete
yet, what it dispatched in this order, and how often it deleted itself. -/
structure ConnectToUpdatesInvocation (ω υ : Type*) where
  state : MethodInvocation.State := .ready
  element : List ω := []
  outstanding : List Operation := []
  dispatched : List (Task υ) := []
  deletions : ℕ := 0

namespace ConnectToUpdatesInvocation

variable {ω υ : Type*} (decode : ω → υ)

def issue (operation : Operation) (s : ConnectToUpdatesInvocation ω υ) :
    ConnectToUpdatesInvocation ω υ :=
  { s with outstanding := s.outstanding ++ [operation] }

def dispatch (task : Task υ) (s : ConnectToUpdatesInvocation ω υ) :
    ConnectToUpdatesInvocation ω υ :=
  { s with dispatched := s.dispatched ++ [task] }

/-- The error of a stream that is refused. -/
def refusal : Error := { message := "failed to connect to updates" }

def proceed (result : Bool) (s : ConnectToUpdatesInvocation ω υ) :
    ConnectToUpdatesInvocation ω υ :=
  match s.state with
  | .ready =>
      if result then
        ({ s.dispatch (.result (.ok ())) with state := .streaming }).issue .read
      else
        ({ s.dispatch (.result (.error refusal)) with state := .finished }).issue
          .finish
  | .streaming =>
      if result then (s.dispatch (.writeUpdate (s.element.map decode))).issue .read
      else { s with state := .finished }.issue .finish
  | .finished => { s with deletions := s.deletions + 1 }

/-- `ConnectToUpdatesInvocation::start`. -/
def start : ConnectToUpdatesInvocation ω υ :=
  ({} : ConnectToUpdatesInvocation ω υ).issue .connect

/-- One event answers one operation that is outstanding. -/
def step (s : ConnectToUpdatesInvocation ω υ) (event : Event ω) :
    Option (ConnectToUpdatesInvocation ω υ) :=
  if event.operation ∈ s.outstanding then
    some ({ s with
      outstanding := s.outstanding.erase event.operation
      element := event.element s.element }.proceed decode event.ok)
  else none

/-! ## What one event does -/

variable {decode : ω → υ} {s s' : ConnectToUpdatesInvocation ω υ}

/-- The operation that an invocation waits for in its state, how often it
deleted itself, and how often it gave the result of the connection. -/
inductive Waits : MethodInvocation.State → List Operation → ℕ → ℕ → Prop where
  | ready : Waits .ready [.connect] 0 0
  | streaming : Waits .streaming [.read] 0 1
  | finished : Waits .finished [.finish] 0 1
  | deleted : Waits .finished [] 1 1

/-- The invocation waits for the operation of its state. -/
def IsWaiting (s : ConnectToUpdatesInvocation ω υ) : Prop :=
  Waits s.state s.outstanding s.deletions (s.dispatched.countP Task.isResult)

/-- What an event leads to in the context. -/
def tasks (decode : ω → υ) : Event ω → List (Task υ)
  | .connected true => [.result (.ok ())]
  | .connected false => [.result (.error refusal)]
  | .read (some element) => [.writeUpdate (element.map decode)]
  | .read none | .finished _ _ => []

/-- What an event does to an invocation that waits for it. -/
inductive Step (decode : ω → υ) (s : ConnectToUpdatesInvocation ω υ) :
    Event ω → ConnectToUpdatesInvocation ω υ → Prop where
  | accepted (hstate : s.state = .ready) :
      Step decode s (.connected true)
        { s with
          state := .streaming
          outstanding := [.read]
          dispatched := s.dispatched ++ [.result (.ok ())] }
  | refused (hstate : s.state = .ready) :
      Step decode s (.connected false)
        { s with
          state := .finished
          outstanding := [.finish]
          dispatched := s.dispatched ++ [.result (.error refusal)] }
  | read (element : List ω) (hstate : s.state = .streaming) :
      Step decode s (.read (some element))
        { s with
          element := element
          outstanding := [.read]
          dispatched := s.dispatched ++ [.writeUpdate (element.map decode)] }
  | ended (hstate : s.state = .streaming) :
      Step decode s (.read none)
        { s with state := .finished, outstanding := [.finish] }
  | finished (status : ℕ) (ok : Bool) (hstate : s.state = .finished)
      (hdeletions : s.deletions = 0) :
      Step decode s (.finished status ok)
        { s with outstanding := [], deletions := 1 }

theorem step_cases {event : Event ω} (h : s.IsWaiting)
    (hstep : s.step decode event = some s') : Step decode s event s' := by
  rcases s with ⟨state, element, outstanding, dispatched, deletions⟩
  simp only [step] at hstep
  split at hstep
  next hmem =>
    cases hstep
    have hwaits : Waits state outstanding deletions _ := h
    generalize dispatched.countP Task.isResult = results at hwaits
    cases hwaits with
    | ready =>
        cases event with
        | connected ok =>
            cases ok with
            | true => exact .accepted rfl
            | false => exact .refused rfl
        | read | finished => simp [Event.operation] at hmem
    | streaming =>
        cases event with
        | read element =>
            cases element with
            | some element => exact .read element rfl
            | none => exact .ended rfl
        | connected | finished => simp [Event.operation] at hmem
    | finished =>
        cases event with
        | finished status ok => exact .finished status ok rfl rfl
        | connected | read => simp [Event.operation] at hmem
    | deleted => simp at hmem
  next => cases hstep

/-! ## Whole streams -/

theorem Waits.results {state : MethodInvocation.State} {outstanding : List Operation}
    {deletions results : ℕ} (h : Waits state outstanding deletions results) :
    results = if state = .ready then 0 else 1 := by
  cases h <;> rfl

theorem Waits.deletions {state : MethodInvocation.State} {outstanding : List Operation}
    {deletions results : ℕ} (h : Waits state outstanding deletions results)
    (hstate : state ≠ .finished) : deletions = 0 := by
  cases h with
  | ready | streaming => rfl
  | finished | deleted => exact absurd rfl hstate

theorem Waits.length_add_deletions {state : MethodInvocation.State}
    {outstanding : List Operation} {deletions results : ℕ}
    (h : Waits state outstanding deletions results) :
    outstanding.length + deletions = 1 := by
  cases h <;> rfl

theorem Step.isWaiting {event : Event ω} (hstep : Step decode s event s')
    (h : s.IsWaiting) : s'.IsWaiting := by
  have hresults := Waits.results h
  rw [IsWaiting]
  cases hstep with
  | accepted hstate =>
      rw [if_pos hstate] at hresults
      have hdeletions := Waits.deletions h (by simp [hstate])
      simp only [List.countP_append, hresults, hdeletions]
      exact .streaming
  | refused hstate =>
      rw [if_pos hstate] at hresults
      have hdeletions := Waits.deletions h (by simp [hstate])
      simp only [List.countP_append, hresults, hdeletions]
      exact .finished
  | read element hstate =>
      rw [if_neg (by simp [hstate])] at hresults
      have hdeletions := Waits.deletions h (by simp [hstate])
      simp only [List.countP_append, hresults, hdeletions, hstate]
      exact .streaming
  | ended hstate =>
      rw [if_neg (by simp [hstate])] at hresults
      have hdeletions := Waits.deletions h (by simp [hstate])
      simp only [hresults, hdeletions]
      exact .finished
  | finished status ok hstate hdeletions =>
      rw [if_neg (by simp [hstate])] at hresults
      simp only [hresults, hstate]
      exact .deleted

theorem Step.dispatched {event : Event ω} (hstep : Step decode s event s') :
    s'.dispatched = s.dispatched ++ tasks decode event := by
  cases hstep with
  | accepted | refused | read => rfl
  | ended | finished => exact (List.append_nil _).symm

theorem Step.deletions {event : Event ω} (hstep : Step decode s event s') :
    s'.deletions = s.deletions + if event.isFinished then 1 else 0 := by
  cases hstep with
  | finished status ok hstate hdeletions =>
      rw [hdeletions]
      rfl
  | _ => rfl

theorem Step.left {event : Event ω} (hstep : Step decode s event s') :
    s'.state ≠ .ready := by
  cases hstep with
  | read element hstate | finished status ok hstate =>
      rw [show _ = _ from hstate]
      exact (nomatch ·)
  | _ => exact (nomatch ·)

theorem isWaiting_start : (start : ConnectToUpdatesInvocation ω υ).IsWaiting :=
  .ready

/-- What an invocation did after some events: it waits for one operation unless
it deleted itself, once, as the stream was finished, and it dispatched the
result of the connection and every element that was read, in their order. -/
structure Conforms (decode : ω → υ) (events : List (Event ω))
    (s : ConnectToUpdatesInvocation ω υ) : Prop where
  outstanding : s.outstanding.length + s.deletions = 1
  deletions : s.deletions = events.countP Event.isFinished
  dispatched : s.dispatched = events.flatMap (tasks decode)
  results : s.dispatched.countP Task.isResult = min 1 events.length

theorem isWaiting_run {events : List (Event ω)} (h : s.IsWaiting)
    (hrun : Machine.run (step decode) s events = some s') : s'.IsWaiting :=
  Machine.invariant_run IsWaiting (C := fun _ _ => True)
    (fun _ _ _ h _ hstep => (step_cases h hstep).isWaiting h) h
    (Machine.meets_of_mem _ fun _ _ => trivial) hrun

/-- Only the first event finds the invocation ready. -/
theorem state_run {events : List (Event ω)} (h : s.IsWaiting)
    (hleft : s.state ≠ .ready)
    (hrun : Machine.run (step decode) s events = some s') : s'.state ≠ .ready := by
  have hboth := Machine.invariant_run (fun s => s.IsWaiting ∧ s.state ≠ .ready)
    (C := fun _ _ => True)
    (fun s event s' h _ hstep =>
      have hcases := step_cases h.1 hstep
      ⟨hcases.isWaiting h.1, hcases.left⟩)
    ⟨h, hleft⟩ (Machine.meets_of_mem _ fun _ _ => trivial) hrun
  exact hboth.2

theorem conforms_run {events : List (Event ω)}
    (hrun : Machine.run (step decode) start events = some s) :
    Conforms decode events s := by
  have hwaits : s.IsWaiting := isWaiting_run isWaiting_start hrun
  constructor
  · exact Waits.length_add_deletions hwaits
  · have hcount := Machine.run_counts IsWaiting deletions Event.isFinished
      (fun s event s' h hstep =>
        ⟨(step_cases h hstep).isWaiting h, (step_cases h hstep).deletions⟩)
      isWaiting_start hrun
    rw [hcount]
    exact Nat.zero_add _
  · exact Machine.run_emits IsWaiting ConnectToUpdatesInvocation.dispatched
      (tasks decode)
      (fun s event s' h hstep =>
        ⟨(step_cases h hstep).isWaiting h, (step_cases h hstep).dispatched⟩)
      isWaiting_start hrun
  · rw [Waits.results hwaits]
    cases events with
    | nil =>
        cases hrun
        rfl
    | cons event events =>
        obtain ⟨next, hnext, hrest⟩ := Machine.run_cons hrun
        have hfirst := step_cases isWaiting_start hnext
        have hleft := state_run (hfirst.isWaiting isWaiting_start) hfirst.left hrest
        rw [if_neg hleft, List.length_cons]
        omega

/-- The events of a stream that is refused. -/
def refusedStream (status : ℕ) (ok : Bool) : List (Event ω) :=
  [.connected false, .finished status ok]

/-- The events of a stream that is accepted, with the elements that are read
before a read fails. -/
def acceptedStream (elements : List (List ω)) (status : ℕ) (ok : Bool) :
    List (Event ω) :=
  .connected true :: elements.map (fun element => .read (some element)) ++
    [.read none, .finished status ok]

/-- Reads that succeed lead from read to read. -/
theorem run_reads (decode : ω → υ) (elements : List (List ω))
    (hstate : s.state = .streaming) (houtstanding : s.outstanding = [.read])
    (rest : List (Event ω)) :
    ∃ s', s'.state = .streaming ∧ s'.outstanding = [.read] ∧
      Machine.run (step decode) s
          (elements.map (fun element => .read (some element)) ++ rest) =
        Machine.run (step decode) s' rest := by
  induction elements generalizing s with
  | nil => exact ⟨s, hstate, houtstanding, rfl⟩
  | cons element elements ih =>
      have hnext : s.step decode (.read (some element)) = some
          { s with
            element := element
            outstanding := [.read]
            dispatched := s.dispatched ++ [.writeUpdate (element.map decode)] } := by
        simp [step, Event.operation, houtstanding, proceed, hstate, Event.ok, issue,
          dispatch, Event.element]
      simp only [List.map_cons, List.cons_append, Machine.run, hnext]
      exact ih hstate rfl

/-- Whatever a server that accepts does, the invocation comes to the end. -/
theorem run_acceptedStream (decode : ω → υ) (elements : List (List ω)) (status : ℕ)
    (ok : Bool) :
    ∃ s, Machine.run (step decode) start (acceptedStream elements status ok) =
      some s := by
  let accepted : ConnectToUpdatesInvocation ω υ :=
    { state := .streaming, outstanding := [.read], dispatched := [.result (.ok ())] }
  have hfirst : start.step decode (.connected true) = some accepted := rfl
  obtain ⟨s, hstate, houtstanding, hrun⟩ := run_reads decode elements
    (show accepted.state = .streaming from rfl) rfl [.read none, .finished status ok]
  rw [acceptedStream, List.cons_append, Machine.run, hfirst]
  dsimp only
  rw [hrun]
  simp [Machine.run, step, Event.operation, houtstanding, proceed, hstate, Event.ok,
    issue]

/-- For every server: whatever events answered the operations of an invocation,
it conforms to them; and each stream, accepted or refused, runs to its end,
where the invocation deleted itself once. -/
theorem invocation_conforms {ω υ : Type*} (decode : ω → υ) :
    (∀ events s, Machine.run (step decode) start events = some s →
      Conforms decode events s) ∧
    ∀ status ok,
      (∃ s, Machine.run (step decode) start (refusedStream status ok) = some s ∧
        s.deletions = 1 ∧ s.dispatched = [.result (.error refusal)]) ∧
      ∀ elements,
        ∃ s, Machine.run (step decode) start (acceptedStream elements status ok) =
            some s ∧ s.deletions = 1 ∧
          s.dispatched = .result (.ok ()) ::
            elements.map fun element => .writeUpdate (element.map decode) := by
  refine ⟨fun events s => conforms_run, fun status ok => ⟨⟨_, rfl, rfl, rfl⟩, ?_⟩⟩
  intro elements
  obtain ⟨s, hrun⟩ := run_acceptedStream decode elements status ok
  have hconforms := conforms_run hrun
  refine ⟨s, hrun, ?_, ?_⟩
  · rw [hconforms.deletions]
    simp [acceptedStream, Event.isFinished, List.countP_append, List.countP_map,
      Function.comp_def]
  · rw [hconforms.dispatched]
    simp only [acceptedStream, List.cons_append, List.flatMap_cons, List.flatMap_append,
      List.flatMap_map, tasks, List.flatMap_nil, List.append_nil]
    rw [← List.map_eq_flatMap]
    rfl

end ConnectToUpdatesInvocation
end Airmap.Monitor.Grpc.Client
