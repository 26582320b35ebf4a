import PlatformSdk.Boost.Context
import PlatformSdk.Monitor.Client

/-!
# Simulating a scenario

`cmd::SimulateScenario`: every participant goes through a chain of requests, and
all chains share one context.  The first answer to an `end_flight` stops it, so
that a scenario ends cleanly exactly if nobody else has a flight by then.  Points
in time, signals, the thread that submits telemetry and what is logged are left
out.
-/

namespace Airmap

/-! ## Scenarios -/

/-- `util::Scenario::User`. -/
structure Util.Scenario.User where
  username : String
  password : String
  clientId : String
  deriving DecidableEq

/-- `util::Scenario::Participant`, with the ids of the aircraft and the pilot and
without what only the simulated vehicle needs. -/
structure Util.Scenario.Participant where
  aircraft : String := ""
  pilot : String := ""
  user : Option Util.Scenario.User := none
  geometry : Geometry := .invalid
  authentication : Option String := none
  flight : Option Flight := none
  monitor : Option ℕ := none
  encryptionKey : Option String := none
  deriving Inhabited

namespace Util.Scenario.Participant

/-- `geometry.details_for_polygon().outer_ring.coordinates`, without coordinates where the
geometry is no polygon: nothing can be read there. -/
def ring (p : Participant) : List Geometry.Coordinate :=
  p.geometry.detailsForPolygon.outerRing

/-- The ring has a segment, without which the constructor of a `TelemetrySimulator` is
undefined. -/
def HasSegment (p : Participant) : Prop := 2 ≤ p.ring.length

instance : DecidablePred HasSegment := fun _ => inferInstanceAs (Decidable (2 ≤ _))

end Util.Scenario.Participant

/-- `util::Scenario`; the duration is in seconds. -/
structure Util.Scenario where
  participants : List Util.Scenario.Participant
  duration : Option ℕ := none

namespace Cmd

open Util.Scenario (Participant)

/-- The calls of the client, and the timer. -/
inductive SimulateScenario.Call where
  | authenticateWithPassword (oauth : Credentials.OAuth)
  | authenticateAnonymously (pilot : String)
  | getStatusByPolygon (latitude longitude : Double) (geometry : Geometry)
      (weather : Bool)
  | createFlightByPolygon (authorization aircraft : String)
      (latitude longitude : Double) (geometry : Geometry)
  | monitorTraffic (flight authorization : String)
  | startFlightCommunications (authorization flight : String)
  | scheduleIn (seconds : ℕ)
  | endFlightCommunications (authorization flight : String)
  | endFlight (authorization flight : String)

/-- A call that was not answered yet, with the participant it was made for. -/
structure SimulateScenario.Request where
  participant : ℕ
  call : SimulateScenario.Call

/-- What a callback is given: an error, or the part of the value that is read. -/
inductive SimulateScenario.Reply where
  | failure
  | authentication (id : String)
  | status
  | flight (flight : Flight)
  | monitor (monitor : ℕ)
  | key (key : String)
  | ended
  | fired

/-- `SimulateScenario` and its `Collector`, with the requests that wait for an answer
and those that were answered, the last one first.  It is not defined any more once something
was read that is not there. -/
structure SimulateScenario where
  participants : List Participant
  duration : ℕ
  keyCounter : UInt32 := 0
  /-- The participants as they were copied for the `ScenarioSimulator` that runs. -/
  simulator : Option (List Participant) := none
  context : Boost.Context := {}
  pending : List SimulateScenario.Request := []
  history : List (SimulateScenario.Request × SimulateScenario.Reply) := []
  defined : Bool := true

namespace SimulateScenario

/-- `*participant`. -/
def participant (i : ℕ) (s : SimulateScenario) : Participant :=
  s.participants.getD i default

/-- A member of the participant is set. -/
def collect (i : ℕ) (f : Participant → Participant) (s : SimulateScenario) :
    SimulateScenario :=
  { s with participants := s.participants.modify i f }

def issue (i : ℕ) (call : Call) (s : SimulateScenario) : SimulateScenario :=
  { s with pending := s.pending ++ [⟨i, call⟩] }

def stop (rc : ReturnCode) (s : SimulateScenario) : SimulateScenario :=
  { s with context := s.context.stop rc }

/-- `authentication.get()` of the participant. -/
def authorization (i : ℕ) (s : SimulateScenario) : String :=
  (s.participant i).authentication.getD default

/-- `flight.get().id` of the participant. -/
def flightId (i : ℕ) (s : SimulateScenario) : String :=
  ((s.participant i).flight.getD default).id

/-- A request that reads `polygon.outer_ring.coordinates[0]` of the participant, which
nothing checks to be there. -/
def issueWithFirst (i : ℕ) (call : Geometry.Coordinate → Call) (s : SimulateScenario) :
    SimulateScenario :=
  match (s.participant i).ring.head? with
  | some first => s.issue i (call first)
  | none => { s with defined := false }

def requestAuthenticationFor (deviceName : String) (i : ℕ) (s : SimulateScenario) :
    SimulateScenario :=
  match (s.participant i).user with
  | some user =>
      s.issue i (.authenticateWithPassword
        { clientId := user.clientId
          deviceId := deviceName
          username := user.username
          password := user.password })
  | none => s.issue i (.authenticateAnonymously (s.participant i).pilot)

def requestFlightStatusFor (i : ℕ) (s : SimulateScenario) : SimulateScenario :=
  s.issueWithFirst i fun first =>
    .getStatusByPolygon first.latitude first.longitude (s.participant i).geometry true

def requestCreateFlightFor (i : ℕ) (s : SimulateScenario) : SimulateScenario :=
  s.issueWithFirst i fun first =>
    .createFlightByPolygon (s.authorization i) (s.participant i).aircraft first.latitude
      first.longitude (s.participant i).geometry

/-- The body of `handle_authenticated_with_password_result_for` and of
`handle_authenticated_anonymously_result_for`, given a value. -/
def handleAuthenticatedResultFor (i : ℕ) (id : String) (s : SimulateScenario) :
    SimulateScenario :=
  let s := s.collect i fun p => { p with authentication := some id }
  let s := s.requestFlightStatusFor i
  s.requestCreateFlightFor i

def requestTrafficMonitoringFor (i : ℕ) (s : SimulateScenario) : SimulateScenario :=
  s.issue i (.monitorTraffic (s.flightId i) (s.authorization i))

def requestStartFlightCommsFor (i : ℕ) (s : SimulateScenario) : SimulateScenario :=
  s.issue i (.startFlightCommunications (s.authorization i) (s.flightId i))

/-- `handle_create_flight_result_for`, given a flight. -/
def handleCreateFlightResultFor (i : ℕ) (flight : Flight) (s : SimulateScenario) :
    SimulateScenario :=
  let s := s.collect i fun p => { p with flight := some flight }
  let s := s.requestTrafficMonitoringFor i
  let s := s.requestStartFlightCommsFor i
  s.issue i (.scheduleIn s.duration)

/-- `handle_traffic_monitoring_result_for`, given a monitor. -/
def handleTrafficMonitoringResultFor (i : ℕ) (monitor : ℕ) (s : SimulateScenario) :
    SimulateScenario :=
  s.collect i fun p => { p with monitor := some monitor }

/-- `handle_start_flight_comms_result_for`, given a key: with the last key a simulator is
made, which takes every ring to have a segment, and started unless one is running. -/
def handleStartFlightCommsResultFor (i : ℕ) (key : String) (s : SimulateScenario) :
    SimulateScenario :=
  let s := s.collect i fun p => { p with encryptionKey := some key }
  let s := { s with keyCounter := s.keyCounter + 1 }
  if s.participants.length = s.keyCounter.toNat then
    if ∀ p ∈ s.participants, p.HasSegment then
      { s with simulator := some (s.simulator.getD s.participants) }
    else { s with defined := false }
  else s

/-- What the timer calls. -/
def handleTimer (i : ℕ) (s : SimulateScenario) : SimulateScenario :=
  s.issue i (.endFlightCommunications (s.authorization i) (s.flightId i))

/-- `handle_end_flight_comms`, without an error. -/
def handleEndFlightComms (i : ℕ) (s : SimulateScenario) : SimulateScenario :=
  s.issue i (.endFlight (s.authorization i) (s.flightId i))

/-- `handle_end_flight`, without an error. -/
def handleEndFlight (s : SimulateScenario) : SimulateScenario := s.stop .success

/-- An error stops the context, except for the status and the timer, where it is only
logged. -/
def handleError (call : Call) (s : SimulateScenario) : SimulateScenario :=
  match call with
  | .getStatusByPolygon _ _ _ _ | .scheduleIn _ => s
  | _ => s.stop .error

/-- The callback of a request, if the reply is one that the request can have. -/
def callback (request : Request) (reply : Reply) (s : SimulateScenario) :
    Option SimulateScenario :=
  match request.call, reply with
  | .authenticateWithPassword _, .authentication id
  | .authenticateAnonymously _, .authentication id =>
      some (s.handleAuthenticatedResultFor request.participant id)
  | .getStatusByPolygon _ _ _ _, .status => some s
  | .createFlightByPolygon _ _ _ _ _, .flight flight =>
      some (s.handleCreateFlightResultFor request.participant flight)
  | .monitorTraffic _ _, .monitor monitor =>
      some (s.handleTrafficMonitoringResultFor request.participant monitor)
  | .startFlightCommunications _ _, .key key =>
      some (s.handleStartFlightCommsResultFor request.participant key)
  | .scheduleIn _, .fired => some (s.handleTimer request.participant)
  | .endFlightCommunications _ _, .ended =>
      some (s.handleEndFlightComms request.participant)
  | .endFlight _ _, .ended => some s.handleEndFlight
  | call, .failure => some (s.handleError call)
  | _, _ => none

/-- The `i`-th of the waiting requests is answered. -/
structure Event where
  i : ℕ
  reply : Reply

/-- The request is answered, and its callback not called yet. -/
def answered (event : Event) (request : Request) (s : SimulateScenario) :
    SimulateScenario :=
  { s with
    pending := s.pending.eraseIdx event.i
    history := (request, event.reply) :: s.history }

/-- The `io_service` calls a callback; it calls none after the context was stopped, and
nothing is known of what comes after something undefined. -/
def step (s : SimulateScenario) (event : Event) : Option SimulateScenario :=
  if s.defined = true ∧ s.context.state = .running then
    match s.pending[event.i]? with
    | none => none
    | some request => (s.answered event request).callback request event.reply
  else none

/-- The action of the command, until the context runs: the default of the duration
is 60 s. -/
def start (deviceName : String) (scenario : Util.Scenario) : SimulateScenario :=
  let s : SimulateScenario :=
    { participants := scenario.participants
      duration := scenario.duration.getD 60 }
  let s := (List.range s.participants.length).foldl
    (fun s i => s.requestAuthenticationFor deviceName i) s
  { s with context := s.context.run }

/-! ## What a callback does -/

variable {s s' : SimulateScenario} {request : Request} {reply : Reply} {event : Event}

/-- The callbacks, one by one. -/
inductive Callback (s : SimulateScenario) : Request → Reply → SimulateScenario → Prop
  | authenticatedWithPassword {i : ℕ} {oauth : Credentials.OAuth} {id : String} :
      Callback s ⟨i, .authenticateWithPassword oauth⟩ (.authentication id)
        (s.handleAuthenticatedResultFor i id)
  | authenticatedAnonymously {i : ℕ} {pilot id : String} :
      Callback s ⟨i, .authenticateAnonymously pilot⟩ (.authentication id)
        (s.handleAuthenticatedResultFor i id)
  | status {i : ℕ} {latitude longitude : Double} {geometry : Geometry}
      {weather : Bool} :
      Callback s ⟨i, .getStatusByPolygon latitude longitude geometry weather⟩ .status s
  | created {i : ℕ} {authorization aircraft : String} {latitude longitude : Double}
      {geometry : Geometry} {flight : Flight} :
      Callback s
        ⟨i, .createFlightByPolygon authorization aircraft latitude longitude geometry⟩
        (.flight flight) (s.handleCreateFlightResultFor i flight)
  | monitored {i : ℕ} {flight authorization : String} {monitor : ℕ} :
      Callback s ⟨i, .monitorTraffic flight authorization⟩ (.monitor monitor)
        (s.handleTrafficMonitoringResultFor i monitor)
  | started {i : ℕ} {authorization flight key : String} :
      Callback s ⟨i, .startFlightCommunications authorization flight⟩ (.key key)
        (s.handleStartFlightCommsResultFor i key)
  | fired {i seconds : ℕ} :
      Callback s ⟨i, .scheduleIn seconds⟩ .fired (s.handleTimer i)
  | endedComms {i : ℕ} {authorization flight : String} :
      Callback s ⟨i, .endFlightCommunications authorization flight⟩ .ended
        (s.handleEndFlightComms i)
  | ended {i : ℕ} {authorization flight : String} :
      Callback s ⟨i, .endFlight authorization flight⟩ .ended s.handleEndFlight
  | failed {i : ℕ} {call : Call} :
      Callback s ⟨i, call⟩ .failure (s.handleError call)

theorem callback_cases (h : s.callback request reply = some s') :
    Callback s request reply s' := by
  obtain ⟨i, call⟩ := request
  cases call <;> cases reply <;>
    simp only [callback, reduceCtorEq, Option.some.injEq] at h <;> subst h <;>
    constructor

/-- Callbacks are called while the context runs, for requests that wait. -/
theorem step_cases (h : s.step event = some s') :
    (s.defined = true ∧ s.context.state = .running) ∧
      ∃ request, s.pending[event.i]? = some request ∧
        Callback (s.answered event request) request event.reply s' := by
  rw [step] at h
  split at h
  · next hrunning =>
      split at h
      · cases h
      · next request hrequest => exact ⟨hrunning, request, hrequest, callback_cases h⟩
  · cases h

/-- A request that reads the first coordinate changes the requests at most, unless it is
undefined. -/
theorem issueWithFirst_eq (i : ℕ) (call : Geometry.Coordinate → Call)
    (s : SimulateScenario) : ∃ pending defined,
      s.issueWithFirst i call = { s with pending := pending, defined := defined } := by
  rw [issueWithFirst]
  split
  · exact ⟨_, _, rfl⟩
  · exact ⟨_, _, rfl⟩

theorem participants_issueWithFirst (i : ℕ) (call : Geometry.Coordinate → Call)
    (s : SimulateScenario) : (s.issueWithFirst i call).participants = s.participants := by
  obtain ⟨_, _, heq⟩ := issueWithFirst_eq i call s
  rw [heq]

theorem requestFlightStatusFor_eq (i : ℕ) (s : SimulateScenario) :
    ∃ pending defined, s.requestFlightStatusFor i =
      { s with pending := pending, defined := defined } :=
  issueWithFirst_eq i _ s

theorem requestCreateFlightFor_eq (i : ℕ) (s : SimulateScenario) :
    ∃ pending defined, s.requestCreateFlightFor i =
      { s with pending := pending, defined := defined } :=
  issueWithFirst_eq i _ s

theorem handleAuthenticatedResultFor_eq (i : ℕ) (id : String) (s : SimulateScenario) :
    ∃ pending defined, s.handleAuthenticatedResultFor i id =
      { s.collect i fun p => { p with authentication := some id } with
        pending := pending, defined := defined } := by
  obtain ⟨pending, defined, hstatus⟩ := requestFlightStatusFor_eq i
    (s.collect i fun p => { p with authentication := some id })
  obtain ⟨pending', defined', hcreate⟩ := requestCreateFlightFor_eq i
    { s.collect i fun p => { p with authentication := some id } with pending, defined }
  refine ⟨pending', defined', ?_⟩
  simp only [handleAuthenticatedResultFor, hstatus, hcreate]

theorem handleStartFlightCommsResultFor_eq (i : ℕ) (key : String) (s : SimulateScenario) :
    ∃ simulator defined, s.handleStartFlightCommsResultFor i key =
      { s.collect i fun p => { p with encryptionKey := some key } with
        keyCounter := s.keyCounter + 1, simulator := simulator, defined := defined } := by
  rw [handleStartFlightCommsResultFor]
  split
  · split
    · exact ⟨_, _, rfl⟩
    · exact ⟨_, _, rfl⟩
  · exact ⟨_, _, rfl⟩

/-- The participant whose flight has been ended with this answer. -/
def endedFlightOf : Request × Reply → Option ℕ
  | (⟨i, .endFlight _ _⟩, .ended) => some i
  | _ => none

/-- A callback stops the context with success for the answer to an `end_flight` and
for no other. -/
theorem Callback.stops (h : Callback s request reply s') :
    (∃ i, endedFlightOf (request, reply) = some i ∧ s' = s.stop .success) ∨
    (endedFlightOf (request, reply) = none ∧ s'.history = s.history ∧
      (s'.context = s.context ∨ s'.context = s.context.stop .error)) := by
  cases h with
  | ended => exact .inl ⟨_, rfl, rfl⟩
  | @authenticatedWithPassword i _ id | @authenticatedAnonymously i _ id =>
      obtain ⟨_, _, heq⟩ := handleAuthenticatedResultFor_eq i id s
      rw [heq]
      exact .inr ⟨rfl, rfl, .inl rfl⟩
  | @started i _ _ key =>
      obtain ⟨_, _, heq⟩ := handleStartFlightCommsResultFor_eq i key s
      rw [heq]
      exact .inr ⟨rfl, rfl, .inl rfl⟩
  | @failed i call =>
      cases call with
      | getStatusByPolygon | scheduleIn => exact .inr ⟨rfl, rfl, .inl rfl⟩
      | _ => exact .inr ⟨rfl, rfl, .inr rfl⟩
  | _ => exact .inr ⟨rfl, rfl, .inl rfl⟩

/-! ## Values that are read -/

/-- What the callback of a call reads of its participant is set. -/
def Call.Ready (p : Participant) : Call → Prop
  | .authenticateWithPassword _ | .authenticateAnonymously _
  | .getStatusByPolygon _ _ _ _ => True
  | .createFlightByPolygon _ _ _ _ _ => p.authentication.isSome
  | .monitorTraffic _ _ | .startFlightCommunications _ _ | .scheduleIn _
  | .endFlightCommunications _ _ | .endFlight _ _ =>
      p.authentication.isSome ∧ p.flight.isSome

/-- Every request that waits is one for a participant of the scenario, and what its
callback reads of him is set. -/
def Ready (s : SimulateScenario) : Prop :=
  ∀ request ∈ s.pending, ∃ p, s.participants[request.participant]? = some p ∧
    request.call.Ready p

theorem Call.Ready.mono {p q : Participant} {call : Call} (h : call.Ready p)
    (hauthentication : p.authentication.isSome → q.authentication.isSome)
    (hflight : p.flight.isSome → q.flight.isSome) : call.Ready q := by
  cases call with
  | authenticateWithPassword | authenticateAnonymously | getStatusByPolygon => trivial
  | createFlightByPolygon => exact hauthentication h
  | _ => exact ⟨hauthentication h.1, hflight h.2⟩

theorem Ready.issue {i : ℕ} {p : Participant} {call : Call} (h : s.Ready)
    (hp : s.participants[i]? = some p) (hcall : call.Ready p) :
    (s.issue i call).Ready := by
  intro request hrequest
  rw [SimulateScenario.issue, List.mem_append, List.mem_singleton] at hrequest
  rcases hrequest with hrequest | rfl
  · exact h request hrequest
  · exact ⟨p, hp, hcall⟩

theorem Ready.issueWithFirst {i : ℕ} {p : Participant} {call : Geometry.Coordinate → Call}
    (h : s.Ready) (hp : s.participants[i]? = some p) (hcall : ∀ first, (call first).Ready p) :
    (s.issueWithFirst i call).Ready := by
  rw [SimulateScenario.issueWithFirst]
  split
  · exact h.issue hp (hcall _)
  · exact h

theorem participants_collect {i : ℕ} {p : Participant} {f : Participant → Participant}
    (hp : s.participants[i]? = some p) :
    (s.collect i f).participants[i]? = some (f p) := by
  rw [collect, List.getElem?_modify_eq, hp]
  rfl

theorem Ready.collect {i : ℕ} {f : Participant → Participant} (h : s.Ready)
    (hauthentication : ∀ p, p.authentication.isSome → (f p).authentication.isSome)
    (hflight : ∀ p, p.flight.isSome → (f p).flight.isSome) : (s.collect i f).Ready := by
  intro request hrequest
  obtain ⟨p, hp, hcall⟩ := h request hrequest
  by_cases hi : i = request.participant
  · subst hi
    exact ⟨f p, participants_collect hp, hcall.mono (hauthentication p) (hflight p)⟩
  · refine ⟨p, ?_, hcall⟩
    simp [SimulateScenario.collect, hi, hp]

theorem Ready.answered (h : s.Ready) (request : Request) :
    (s.answered event request).Ready :=
  fun other hother => h other (List.mem_of_mem_eraseIdx hother)

theorem Ready.handleAuthenticatedResultFor {i : ℕ} {p : Participant} (h : s.Ready)
    (hp : s.participants[i]? = some p) (id : String) :
    (s.handleAuthenticatedResultFor i id).Ready := by
  have hcollect : (s.collect i fun p => { p with authentication := some id }).Ready :=
    h.collect (fun _ _ => rfl) (fun _ hflight => hflight)
  have hi := participants_collect (f := fun p => { p with authentication := some id }) hp
  have hstatus : ((s.collect i fun p =>
      { p with authentication := some id }).requestFlightStatusFor i).Ready :=
    hcollect.issueWithFirst hi fun _ => trivial
  refine hstatus.issueWithFirst (p := { p with authentication := some id }) ?_ fun _ => rfl
  rw [requestFlightStatusFor, participants_issueWithFirst]
  exact hi

theorem Ready.handleCreateFlightResultFor {i : ℕ} {p : Participant} (h : s.Ready)
    (hp : s.participants[i]? = some p) (hauthentication : p.authentication.isSome)
    (flight : Flight) : (s.handleCreateFlightResultFor i flight).Ready := by
  have hcollect : (s.collect i fun p => { p with flight := some flight }).Ready :=
    h.collect (fun _ hauthentication => hauthentication) (fun _ _ => rfl)
  have hi := participants_collect (f := fun p => { p with flight := some flight }) hp
  refine ((hcollect.issue hi ?_).issue hi ?_).issue hi ?_
  · exact ⟨hauthentication, rfl⟩
  · exact ⟨hauthentication, rfl⟩
  · exact ⟨hauthentication, rfl⟩

theorem Ready.handleStartFlightCommsResultFor {i : ℕ} (h : s.Ready) (key : String) :
    (s.handleStartFlightCommsResultFor i key).Ready := by
  have hcollect : (s.collect i fun p => { p with encryptionKey := some key }).Ready :=
    h.collect (fun _ hauthentication => hauthentication) (fun _ hflight => hflight)
  obtain ⟨_, _, heq⟩ := handleStartFlightCommsResultFor_eq i key s
  rw [heq]
  exact hcollect

/-- What a callback asks for next, it asks for with values that are set. -/
theorem Callback.ready (h : Callback s request reply s') (hready : s.Ready)
    {p : Participant} (hp : s.participants[request.participant]? = some p)
    (hcall : request.call.Ready p) : s'.Ready := by
  cases h with
  | authenticatedWithPassword | authenticatedAnonymously =>
      exact hready.handleAuthenticatedResultFor hp _
  | status => exact hready
  | created => exact hready.handleCreateFlightResultFor hp hcall _
  | monitored => exact hready.collect (fun _ h => h) (fun _ h => h)
  | started => exact hready.handleStartFlightCommsResultFor _
  | fired | endedComms => exact hready.issue hp hcall
  | ended => exact hready
  | @failed i call =>
      cases call with
      | _ => exact hready

theorem step_ready (h : s.Ready) (hstep : s.step event = some s') : s'.Ready := by
  obtain ⟨-, request, hrequest, hcallback⟩ := step_cases hstep
  obtain ⟨p, hp, hcall⟩ := h request (List.mem_of_getElem? hrequest)
  exact hcallback.ready (h.answered request) hp hcall

theorem requestAuthenticationFor_eq (deviceName : String) (i : ℕ)
    (s : SimulateScenario) : ∃ call : Call, (∀ p, call.Ready p) ∧
      s.requestAuthenticationFor deviceName i = s.issue i call := by
  rw [requestAuthenticationFor]
  split
  · next user => exact ⟨.authenticateWithPassword _, fun _ => trivial, rfl⟩
  · exact ⟨.authenticateAnonymously _, fun _ => trivial, rfl⟩

/-- Only requests are made before the context runs, and they are ready. -/
theorem foldl_requestAuthenticationFor (deviceName : String) (is : List ℕ)
    (his : ∀ i ∈ is, i < s.participants.length) (hready : s.Ready) :
    let s' := is.foldl (fun s i => s.requestAuthenticationFor deviceName i) s
    s'.Ready ∧ s'.participants = s.participants ∧ s'.context = s.context ∧
      s'.history = s.history ∧ s'.defined = s.defined := by
  induction is generalizing s with
  | nil => exact ⟨hready, rfl, rfl, rfl, rfl⟩
  | cons i is ih =>
      obtain ⟨call, hcall, heq⟩ := requestAuthenticationFor_eq deviceName i s
      have hi := List.getElem?_eq_getElem (his i (by simp))
      rw [List.foldl_cons, heq]
      exact ih (fun j hj => his j (by simp [hj])) (hready.issue hi (hcall _))

/-- The command starts with a context that runs, nothing answered, and requests that
are ready. -/
theorem start_ready (deviceName : String) (scenario : Util.Scenario) :
    (start deviceName scenario).Ready ∧
      (start deviceName scenario).participants = scenario.participants ∧
      (start deviceName scenario).context = { state := .running } ∧
      (start deviceName scenario).history = [] ∧
      (start deviceName scenario).defined = true := by
  have hfold := foldl_requestAuthenticationFor
    (s := { participants := scenario.participants
            duration := scenario.duration.getD 60 })
    deviceName (List.range scenario.participants.length)
    (fun i hi => List.mem_range.mp hi) (fun _ hrequest => nomatch hrequest)
  obtain ⟨hready, hparticipants, hcontext, hhistory, hdefined⟩ := hfold
  refine ⟨hready, hparticipants, ?_, hhistory, hdefined⟩
  rw [start]
  simp only [hcontext]
  rfl

/-- In every state of a run, what the callbacks will read is set. -/
theorem ready_run {deviceName : String} {scenario : Util.Scenario} {events : List Event}
    (hrun : Machine.run step (start deviceName scenario) events = some s) : s.Ready :=
  Machine.invariant_run Ready (fun _ _ _ hready _ hstep => step_ready hready hstep)
    (start_ready deviceName scenario).1 (Machine.meets_true _ _) hrun

/-! ## Ending cleanly -/

/-- A flight was created for the participant. -/
def HasFlight (s : SimulateScenario) (i : ℕ) : Prop :=
  (s.participants[i]?.bind Participant.flight).isSome

/-- The `end_flight` for the participant has completed. -/
def HasEnded (s : SimulateScenario) (i : ℕ) : Prop :=
  some i ∈ s.history.map endedFlightOf

instance (i : ℕ) : Decidable (s.HasFlight i) := inferInstanceAs (Decidable (_ = true))

instance (i : ℕ) : Decidable (s.HasEnded i) := inferInstanceAs (Decidable (_ ∈ _))

/-- If the context was stopped with success, every flight that was created has been
ended. -/
def StopsCleanly (s : SimulateScenario) : Prop :=
  s.context = { state := .stopping, returnCode := .success } →
    ∀ i < s.participants.length, s.HasFlight i → s.HasEnded i

instance : DecidablePred StopsCleanly := fun _ =>
  inferInstanceAs (Decidable (_ → ∀ i < _, _ → _))

/-- Everything that happened is defined, and the context is stopped cleanly. -/
def EndsCleanly (s : SimulateScenario) : Prop := s.defined = true ∧ s.StopsCleanly

instance : DecidablePred EndsCleanly := fun _ => inferInstanceAs (Decidable (_ ∧ _))

/-- What the callback of a request reads without a check is there: the first coordinate of
a participant who is authenticated, and with the last key a segment of every ring. -/
def FindsCoordinates (s : SimulateScenario) (request : Request) (reply : Reply) : Prop :=
  match request.call, reply with
  | .authenticateWithPassword _, .authentication _
  | .authenticateAnonymously _, .authentication _ =>
      (s.participant request.participant).ring ≠ []
  | .startFlightCommunications _ _, .key _ =>
      s.participants.length = (s.keyCounter + 1).toNat →
        ∀ p ∈ s.participants, p.HasSegment
  | _, _ => True

/-- What is read for the event is there, and if it is the answer to an `end_flight`, nobody
else has a flight. -/
def EndsAlone (s : SimulateScenario) (event : Event) : Prop :=
  s.defined = true ∧ s.context.state = .running → ∀ request ∈ s.pending[event.i]?,
    s.FindsCoordinates request event.reply ∧
      ∀ i ∈ endedFlightOf (request, event.reply), ∀ j, s.HasFlight j → j = i

theorem HasFlight.lt_length {i : ℕ} (h : s.HasFlight i) : i < s.participants.length := by
  by_contra hnot
  rw [HasFlight, List.getElem?_eq_none (Nat.le_of_not_lt hnot)] at h
  cases h

/-- No flight was ended as long as the context runs. -/
def NoneEnded (s : SimulateScenario) : Prop :=
  s.context.state = .running → ∀ i, ¬ s.HasEnded i

theorem step_noneEnded (h : s.NoneEnded) (hstep : s.step event = some s') :
    s'.NoneEnded := by
  obtain ⟨⟨-, hrunning⟩, request, -, hcallback⟩ := step_cases hstep
  rcases hcallback.stops with ⟨i, -, rfl⟩ | ⟨hnone, hhistory, -⟩
  · intro hstate
    have hstopped := Boost.Context.stop_of_running hrunning .success
    change (s.context.stop .success).state = .running at hstate
    rw [hstopped] at hstate
    cases hstate
  · intro _ i hended
    rw [HasEnded, hhistory] at hended
    simp only [answered, List.map_cons, hnone, List.mem_cons, reduceCtorEq, false_or]
      at hended
    exact h hrunning i hended

theorem stopsCleanly_of_running (h : s.context.state = .running) : s.StopsCleanly := by
  intro hstopped
  rw [hstopped] at h
  cases h

theorem stopsCleanly_of_error (h : s.context.returnCode = .error) : s.StopsCleanly := by
  intro hstopped
  rw [hstopped] at h
  cases h

/-- With the first flight that is ended, nobody else has ended his. -/
theorem hasEnded_stop_iff {i : ℕ} (h : s.NoneEnded) (hrunning : s.context.state = .running)
    (hi : endedFlightOf (request, event.reply) = some i) (j : ℕ) :
    ((s.answered event request).stop .success).HasEnded j ↔ j = i := by
  have hbefore := h hrunning j
  rw [HasEnded] at hbefore
  simp [HasEnded, stop, answered, hi, hbefore]

/-- A callback keeps the promise exactly if nobody else has a flight when one is ended. -/
theorem Callback.stopsCleanly_iff (h : s.NoneEnded) (hrunning : s.context.state = .running)
    (hcallback : Callback (s.answered event request) request event.reply s') :
    s'.StopsCleanly ↔
      ∀ i ∈ endedFlightOf (request, event.reply), ∀ j, s.HasFlight j → j = i := by
  rcases hcallback.stops with ⟨i, hi, rfl⟩ | ⟨hnone, -, hcontext⟩
  · have hended := hasEnded_stop_iff h hrunning hi
    rw [hi]
    simp only [Option.mem_some, forall_eq']
    constructor
    · intro hclean j hflight
      exact (hended j).mp
        (hclean (Boost.Context.stop_of_running hrunning .success) j hflight.lt_length
          hflight)
    · intro halone _ j _ hflight
      exact (hended j).mpr (halone j hflight)
  · refine iff_of_true ?_ (by simp [hnone])
    rcases hcontext with hsame | herror
    · apply stopsCleanly_of_running
      rw [hsame]
      exact hrunning
    · apply stopsCleanly_of_error
      have hstopped := Boost.Context.stop_of_running hrunning .error
      change s'.context = s.context.stop .error at herror
      rw [herror, hstopped]

/-! ### Reads without a check -/

theorem issueWithFirst_defined_iff (i : ℕ) (call : Geometry.Coordinate → Call)
    (s : SimulateScenario) : (s.issueWithFirst i call).defined = true ↔
      s.defined = true ∧ (s.participant i).ring ≠ [] := by
  rw [issueWithFirst]
  cases hring : (s.participant i).ring with
  | nil => simp
  | cons first rest => simp [issue]

/-- What is collected of a participant leaves his ring as it is. -/
theorem ring_participant_collect {f : Participant → Participant}
    (hf : ∀ p, (f p).geometry = p.geometry) (i j : ℕ) :
    ((s.collect i f).participant j).ring = (s.participant j).ring := by
  simp only [participant, collect, List.getD_eq_getElem?_getD, List.getElem?_modify]
  cases s.participants[j]? with
  | none => rfl
  | some p =>
      simp only [Option.map_eq_map, Option.map_some, Option.getD_some, Participant.ring]
      split
      · rw [hf]
      · rfl

theorem handleAuthenticatedResultFor_defined_iff (i : ℕ) (id : String)
    (hdefined : s.defined = true) :
    (s.handleAuthenticatedResultFor i id).defined = true ↔ (s.participant i).ring ≠ [] := by
  have hring := ring_participant_collect (s := s)
    (f := fun p => { p with authentication := some id }) (fun _ => rfl) i i
  have hsame : (((s.collect i fun p =>
      { p with authentication := some id }).requestFlightStatusFor i).participant i).ring =
        (s.participant i).ring := by
    rw [participant, requestFlightStatusFor, participants_issueWithFirst]
    exact hring
  rw [handleAuthenticatedResultFor, requestCreateFlightFor, issueWithFirst_defined_iff, hsame,
    requestFlightStatusFor, issueWithFirst_defined_iff, hring]
  simp [SimulateScenario.collect, hdefined]

theorem forall_mem_modify_hasSegment {participants : List Participant} {i : ℕ}
    {f : Participant → Participant} (hf : ∀ p, (f p).geometry = p.geometry) :
    (∀ p ∈ participants.modify i f, p.HasSegment) ↔ ∀ p ∈ participants, p.HasSegment := by
  have hsegment : ∀ p, (f p).HasSegment ↔ p.HasSegment := fun p => by
    rw [Participant.HasSegment, Participant.ring, hf]
    rfl
  induction participants generalizing i with
  | nil => simp
  | cons p participants ih =>
      cases i with
      | zero => simp [hsegment]
      | succ i => simp [ih]

theorem handleStartFlightCommsResultFor_defined_iff (i : ℕ) (key : String)
    (hdefined : s.defined = true) :
    (s.handleStartFlightCommsResultFor i key).defined = true ↔
      (s.participants.length = (s.keyCounter + 1).toNat →
        ∀ p ∈ s.participants, p.HasSegment) := by
  have hsegments : (∀ p ∈ s.participants.modify i
        fun p => { p with encryptionKey := some key }, p.HasSegment) ↔
      ∀ p ∈ s.participants, p.HasSegment :=
    forall_mem_modify_hasSegment fun _ => rfl
  rw [handleStartFlightCommsResultFor]
  simp only [SimulateScenario.collect, List.length_modify, hsegments]
  by_cases hlast : s.participants.length = (s.keyCounter + 1).toNat
  · by_cases hall : ∀ p ∈ s.participants, p.HasSegment
    · rw [if_pos hlast, if_pos hall]
      exact iff_of_true hdefined fun _ => hall
    · rw [if_pos hlast, if_neg hall]
      exact iff_of_false (by simp) fun hsegment => hall (hsegment hlast)
  · rw [if_neg hlast]
    exact iff_of_true hdefined fun hlength => absurd hlength hlast

/-- A callback is defined exactly if what it reads without a check is there. -/
theorem Callback.defined_iff (h : Callback s request reply s') (hdefined : s.defined = true) :
    s'.defined = true ↔ s.FindsCoordinates request reply := by
  cases h with
  | authenticatedWithPassword | authenticatedAnonymously =>
      exact handleAuthenticatedResultFor_defined_iff _ _ hdefined
  | started => exact handleStartFlightCommsResultFor_defined_iff _ _ hdefined
  | @failed i call =>
      cases call with
      | _ => exact iff_of_true hdefined trivial
  | _ => exact iff_of_true hdefined trivial

/-- Nothing is read where the request cannot have the reply. -/
theorem findsCoordinates_of_callback (h : s.callback request reply = none) :
    s.FindsCoordinates request reply := by
  obtain ⟨i, call⟩ := request
  cases call <;> cases reply <;> trivial

/-- What is collected leaves the rings of all participants as they are. -/
theorem Callback.hasSegment_iff (h : Callback s request reply s') :
    (∀ p ∈ s'.participants, p.HasSegment) ↔ ∀ p ∈ s.participants, p.HasSegment := by
  cases h with
  | @authenticatedWithPassword i _ id | @authenticatedAnonymously i _ id =>
      obtain ⟨_, _, heq⟩ := handleAuthenticatedResultFor_eq i id s
      rw [heq]
      exact forall_mem_modify_hasSegment fun _ => rfl
  | created | monitored => exact forall_mem_modify_hasSegment fun _ => rfl
  | @started i _ _ key =>
      obtain ⟨_, _, heq⟩ := handleStartFlightCommsResultFor_eq i key s
      rw [heq]
      exact forall_mem_modify_hasSegment fun _ => rfl
  | @failed i call =>
      cases call with
      | _ => rfl
  | _ => rfl

/-- Where all rings have a segment, everything that is read for a request is there. -/
theorem findsCoordinates_of_hasSegment (hsegment : ∀ p ∈ s.participants, p.HasSegment)
    (hrequest : request.participant < s.participants.length) :
    s.FindsCoordinates request reply := by
  have hring : (s.participant request.participant).ring ≠ [] := by
    have hlong := hsegment _ (List.getElem_mem hrequest)
    rw [participant, List.getD_eq_getElem?_getD, List.getElem?_eq_getElem hrequest,
      Option.getD_some]
    intro hnil
    rw [Participant.HasSegment, hnil] at hlong
    exact absurd hlong (by decide)
  unfold FindsCoordinates
  split
  · exact hring
  · exact hring
  · exact fun _ => hsegment
  · trivial

/-- Where all rings have a segment, every run is defined. -/
theorem defined_run {deviceName : String} {scenario : Util.Scenario} {events : List Event}
    (hsegment : ∀ p ∈ scenario.participants, p.HasSegment)
    (hrun : Machine.run step (start deviceName scenario) events = some s) :
    s.defined = true := by
  obtain ⟨hready, hparticipants, -, -, hdefined⟩ := start_ready deviceName scenario
  have hinv := Machine.invariant_run
    (fun s => s.Ready ∧ (∀ p ∈ s.participants, p.HasSegment) ∧ s.defined = true) ?_
    ⟨hready, hparticipants ▸ hsegment, hdefined⟩ (Machine.meets_true _ _) hrun
  · exact hinv.2.2
  · rintro s event s' ⟨hready, hsegment, -⟩ - hstep
    obtain ⟨⟨hdefined, -⟩, request, hrequest, hcallback⟩ := step_cases hstep
    obtain ⟨p, hp, -⟩ := hready request (List.mem_of_getElem? hrequest)
    refine ⟨step_ready hready hstep, hcallback.hasSegment_iff.mpr hsegment, ?_⟩
    exact (hcallback.defined_iff hdefined).mpr (findsCoordinates_of_hasSegment hsegment
      (List.getElem?_eq_some_iff.mp hp).1)

/-! ### Every step -/

/-- One step ends as it should exactly if what is read is there and nobody else has a
flight when one is ended. -/
theorem step_endsCleanly_iff (h : s.NoneEnded) (hstep : s.step event = some s') :
    s'.EndsCleanly ↔ s.EndsAlone event := by
  obtain ⟨⟨hdefined, hrunning⟩, request, hrequest, hcallback⟩ := step_cases hstep
  have halone : s.EndsAlone event ↔ s.FindsCoordinates request event.reply ∧
      ∀ i ∈ endedFlightOf (request, event.reply), ∀ j, s.HasFlight j → j = i := by
    simp [EndsAlone, hdefined, hrunning, hrequest]
  rw [halone]
  exact and_congr (hcallback.defined_iff hdefined) (hcallback.stopsCleanly_iff h hrunning)

/-- The answer to an `end_flight` has a callback. -/
theorem callback_of_endedFlightOf {i : ℕ} (h : endedFlightOf (request, reply) = some i) :
    s.callback request reply = some s.handleEndFlight := by
  unfold endedFlightOf at h
  split at h
  · next heq =>
      cases heq
      rfl
  · cases h

theorem endsAlone_of_disabled (h : s.step event = none) : s.EndsAlone event := by
  intro hrunning request hrequest
  rw [step, if_pos hrunning, Option.mem_def.mp hrequest] at h
  refine ⟨findsCoordinates_of_callback (s := s.answered event request) h, fun i hi => ?_⟩
  simp only [callback_of_endedFlightOf (Option.mem_def.mp hi)] at h
  cases h

/-- From a state in which nothing was ended yet, a run keeps the promise exactly if
each of its steps does. -/
theorem along_iff_endsAlone (h : s.NoneEnded) (hclean : s.EndsCleanly)
    (events : List Event) :
    Machine.Along step EndsCleanly s events ↔ Machine.Meets step EndsAlone s events := by
  apply Machine.along_iff_meets NoneEnded
  · exact fun s event s' hnone _ hnext _ => step_noneEnded hnone hnext
  · exact fun s event s' hnone _ hnext => step_endsCleanly_iff hnone hnext
  · exact fun s event => endsAlone_of_disabled
  · exact h
  · exact hclean

theorem start_noneEnded (deviceName : String) (scenario : Util.Scenario) :
    (start deviceName scenario).NoneEnded := by
  obtain ⟨-, -, -, hhistory, -⟩ := start_ready deviceName scenario
  intro _ i hended
  rw [HasEnded, hhistory] at hended
  cases hended

theorem start_endsCleanly (deviceName : String) (scenario : Util.Scenario) :
    (start deviceName scenario).EndsCleanly := by
  obtain ⟨-, -, hcontext, -, hdefined⟩ := start_ready deviceName scenario
  refine ⟨hdefined, stopsCleanly_of_running ?_⟩
  rw [hcontext]

/-- Along a run, everything is defined and the context stops with success only after every
flight was ended, exactly if whatever is read without a check is there and nobody else has a
flight whenever an `end_flight` is answered. -/
theorem endsCleanly_along_iff_endsAlone (deviceName : String) (scenario : Util.Scenario)
    (events : List Event) :
    Machine.Along step EndsCleanly (start deviceName scenario) events ↔
      Machine.Meets step EndsAlone (start deviceName scenario) events :=
  along_iff_endsAlone (start_noneEnded deviceName scenario)
    (start_endsCleanly deviceName scenario) events

/-- A polygon around the same place for everybody. -/
def sharedPolygon : Geometry.Polygon where
  outerRing := [⟨.finite 47, .finite 8, none, none⟩, ⟨.finite 47, .finite 9, none, none⟩,
    ⟨.finite 48, .finite 8, none, none⟩, ⟨.finite 47, .finite 8, none, none⟩]

/-- Two participants without a user. -/
def twoParticipants : Util.Scenario where
  participants :=
    [{ aircraft := "first aircraft"
       pilot := "first pilot"
       geometry := .polygon sharedPolygon },
     { aircraft := "second aircraft"
       pilot := "second pilot"
       geometry := .polygon sharedPolygon }]

/-- Everything succeeds, and the flight of the first participant is the first to be
ended. -/
def twoFlightsRun : List Event :=
  [⟨0, .authentication "first token"⟩, ⟨0, .authentication "second token"⟩,
    ⟨0, .status⟩, ⟨1, .status⟩, ⟨0, .flight { id := "first" }⟩,
    ⟨0, .flight { id := "second" }⟩, ⟨0, .monitor 0⟩, ⟨0, .key "first key"⟩,
    ⟨1, .monitor 1⟩, ⟨1, .key "second key"⟩, ⟨0, .fired⟩, ⟨0, .fired⟩, ⟨0, .ended⟩,
    ⟨0, .ended⟩, ⟨0, .ended⟩]

theorem second_flight_not_ended :
    ∃ s, Machine.run step (start "host" twoParticipants) twoFlightsRun = some s ∧
      s.defined = true ∧ ¬ s.StopsCleanly :=
  Machine.exists_run (by decide)

/-! ## A single participant -/

theorem participant_of_endedFlightOf {i : ℕ}
    (h : endedFlightOf (request, reply) = some i) : request.participant = i := by
  unfold endedFlightOf at h
  split at h
  · next heq =>
      cases heq
      exact Option.some.inj h
  · cases h

theorem Callback.length_participants (h : Callback s request reply s') :
    s'.participants.length = s.participants.length := by
  cases h with
  | @authenticatedWithPassword i _ id | @authenticatedAnonymously i _ id =>
      obtain ⟨_, _, heq⟩ := handleAuthenticatedResultFor_eq i id s
      rw [heq]
      exact List.length_modify ..
  | created | monitored => exact List.length_modify ..
  | @started i _ _ key =>
      obtain ⟨_, _, heq⟩ := handleStartFlightCommsResultFor_eq i key s
      rw [heq]
      exact List.length_modify ..
  | @failed i call =>
      cases call with
      | _ => rfl
  | _ => rfl

/-- A single participant ends alone. -/
theorem Ready.endsAlone (h : s.Ready) (hsingle : s.participants.length = 1)
    (hsegment : ∀ p ∈ s.participants, p.HasSegment) (event : Event) : s.EndsAlone event := by
  intro _ request hrequest
  obtain ⟨p, hp, -⟩ := h request (List.mem_of_getElem? (Option.mem_def.mp hrequest))
  obtain ⟨hlt, -⟩ := List.getElem?_eq_some_iff.mp hp
  refine ⟨findsCoordinates_of_hasSegment hsegment hlt, fun i hi j hflight => ?_⟩
  have hj : j < s.participants.length := hflight.lt_length
  rw [participant_of_endedFlightOf (Option.mem_def.mp hi)] at hlt
  omega

/-- The scenario of a single participant with a segment ends cleanly in every run. -/
theorem endsCleanly_along_of_single (deviceName : String) {scenario : Util.Scenario}
    (hsingle : scenario.participants.length = 1)
    (hsegment : ∀ p ∈ scenario.participants, p.HasSegment) (events : List Event) :
    Machine.Along step EndsCleanly (start deviceName scenario) events := by
  obtain ⟨hready, hparticipants, -, -, -⟩ := start_ready deviceName scenario
  rw [along_iff_endsAlone (start_noneEnded deviceName scenario)
    (start_endsCleanly deviceName scenario)]
  refine (Machine.meets_true _ _).imp_of_invariant
    (fun s => s.Ready ∧ s.participants.length = 1 ∧ ∀ p ∈ s.participants, p.HasSegment)
    ?_ ?_ ?_
  · rintro s event s' ⟨hready, hlength, hsegment⟩ - hstep
    obtain ⟨-, request, -, hcallback⟩ := step_cases hstep
    exact ⟨step_ready hready hstep, hcallback.length_participants.trans hlength,
      hcallback.hasSegment_iff.mpr hsegment⟩
  · rintro s event ⟨hready, hlength, hsegment⟩ -
    exact hready.endsAlone hlength hsegment event
  · rw [hparticipants]
    exact ⟨hready, hsingle, hsegment⟩

end SimulateScenario
end Cmd
end Airmap
