import PlatformSdk.Monitor.Client

/-!
# The telemetry submitter

`monitor::TelemetrySubmitter` function by function.  Each `request_*` either
goes on with the value it already has, or does nothing because the request is
under way, or issues it; each `handle_*` stores a value and goes on to the next
request.  The part of `request_*` after its two early returns is the function
`issue*`.  A `get()` on an unset `Optional` yields a default here and is entered
in the history as an undefined access.
-/

namespace Airmap.Monitor

/-- The members of `TelemetrySubmitter`. -/
structure TelemetrySubmitter where
  state : State := .inactive
  authorizationRequested : Bool := false
  pilotIdRequested : Bool := false
  activeFlightsRequested : Bool := false
  endActiveFlightsRequested : Bool := false
  createFlightPlanRequested : Bool := false
  submitFlightPlanRequested : Bool := false
  trafficMonitoringRequested : Bool := false
  startFlightCommsRequested : Bool := false
  client : Client := {}
  credentials : Credentials := {}
  aircraftId : String := ""
  currentPosition : Option Mavlink.GlobalPositionInt := none
  activeFlights : Option (List Flight) := none
  flightPlan : Option FlightPlan := none
  flight : Option Flight := none
  authorization : Option String := none
  trafficMonitor : Option ℕ := none
  encryptionKey : Option String := none
  missionGeometry : Option Geometry := none
  pilotId : Option String := none

namespace TelemetrySubmitter

/-! ## Calls on the client -/

def issue (s : TelemetrySubmitter) (request : Request) : TelemetrySubmitter :=
  { s with client := s.client.issue s.state request }

def record (s : TelemetrySubmitter) (entry : Entry) : TelemetrySubmitter :=
  { s with client := s.client.record entry }

def access (s : TelemetrySubmitter) (what : Access) (ok : Bool) :
    TelemetrySubmitter :=
  { s with client := s.client.access what ok }

/-! ## Flight communications and traffic monitoring -/

def handleRequestStartFlightCommsFinished (key : String)
    (s : TelemetrySubmitter) : TelemetrySubmitter :=
  { s with encryptionKey := some key }

def issueStartFlightComms (s : TelemetrySubmitter) : TelemetrySubmitter :=
  let s := { s with startFlightCommsRequested := true }
  let s := s.access (.authorization .communications) s.authorization.isSome
  let s := s.access .flight s.flight.isSome
  s.issue (.startFlightCommunications
    (s.authorization.getD default) (s.flight.getD default).id)

def requestStartFlightComms (s : TelemetrySubmitter) : TelemetrySubmitter :=
  match s.encryptionKey with
  | some key => s.handleRequestStartFlightCommsFinished key
  | none =>
      if s.startFlightCommsRequested then s else s.issueStartFlightComms

def handleRequestMonitorTrafficFinished (monitor : ℕ)
    (s : TelemetrySubmitter) : TelemetrySubmitter :=
  { s with trafficMonitor := some monitor }.record (.subscribed monitor)

def issueMonitorTraffic (s : TelemetrySubmitter) : TelemetrySubmitter :=
  let s := { s with trafficMonitoringRequested := true }
  let s := s.access .flight s.flight.isSome
  let s := s.access (.authorization .monitoring) s.authorization.isSome
  s.issue (.monitor
    (s.flight.getD default).id (s.authorization.getD default))

def requestMonitorTraffic (s : TelemetrySubmitter) : TelemetrySubmitter :=
  match s.trafficMonitor with
  | some monitor => s.handleRequestMonitorTrafficFinished monitor
  | none =>
      if s.trafficMonitoringRequested then s else s.issueMonitorTraffic

/-! ## Creating and submitting the flight -/

def handleRequestSubmitFlightPlanFinished (flight : Flight)
    (s : TelemetrySubmitter) : TelemetrySubmitter :=
  let s := { s with flight := some flight }
  s.requestMonitorTraffic.requestStartFlightComms

def issueSubmitFlightPlan (s : TelemetrySubmitter) : TelemetrySubmitter :=
  let s := { s with submitFlightPlanRequested := true }
  let s := s.access (.authorization .submission) s.authorization.isSome
  let s := s.access .flightPlan s.flightPlan.isSome
  s.issue (.submitFlightPlan
    (s.authorization.getD default) (s.flightPlan.getD default).id)

def requestSubmitFlightPlan (s : TelemetrySubmitter) : TelemetrySubmitter :=
  match s.flight with
  | some flight => s.handleRequestSubmitFlightPlanFinished flight
  | none =>
      if s.submitFlightPlanRequested then s else s.issueSubmitFlightPlan

def handleRequestCreateFlightPlanFinished (plan : FlightPlan)
    (s : TelemetrySubmitter) : TelemetrySubmitter :=
  let s := { s with flightPlan := some plan }
  s.requestSubmitFlightPlan

/-- The altitude that `std::max_element` compares. -/
def altitudeOf (coordinate : Geometry.Coordinate) : Double :=
  coordinate.altitude.getD default

/-- `std::max_element` by altitude: the first of the largest elements, or
nothing where the source gets the end of the range. -/
def maxElement : List Geometry.Coordinate → Option Geometry.Coordinate
  | [] => none
  | first :: rest =>
      some (rest.foldl (fun largest coordinate =>
        if (altitudeOf largest).lt (altitudeOf coordinate)
        then coordinate else largest) first)

/-- The branch of `request_create_flight_plan` for a known mission. -/
def createByPolygon (position : Mavlink.GlobalPositionInt) (geometry : Geometry)
    (s : TelemetrySubmitter) : TelemetrySubmitter :=
  let s := s.access (.authorization .creation) s.authorization.isSome
  let s := s.access .pilotId s.pilotId.isSome
  let s := s.access .detailsForPolygon (geometry.kind = .polygon)
  let coordinates := geometry.detailsForPolygon.outerRing
  let it := maxElement coordinates
  let s := s.access .maxElement it.isSome
  let s := s.access .altitude (coordinates.all (·.altitude.isSome))
  s.issue (.createByPolygon {
    authorization := s.authorization.getD default
    latitude := position.lat
    longitude := position.lon
    aircraft := if s.aircraftId.isEmpty then none else some s.aircraftId
    pilot := s.pilotId.getD default
    geometry := geometry
    buffer := 100
    maxAltitude := altitudeOf (it.getD default) })

/-- The branch of `request_create_flight_plan` without a mission. -/
def createFlightByPoint (position : Mavlink.GlobalPositionInt)
    (s : TelemetrySubmitter) : TelemetrySubmitter :=
  let s := s.access (.authorization .creation) s.authorization.isSome
  s.issue (.createFlightByPoint {
    authorization := s.authorization.getD default
    latitude := position.lat
    longitude := position.lon
    aircraftId := s.aircraftId })

def issueCreateFlightPlan (s : TelemetrySubmitter) : TelemetrySubmitter :=
  -- The flag is set before it is known whether anything is issued.
  let s := { s with createFlightPlanRequested := true }
  match s.currentPosition with
  | none => s
  | some position =>
      match s.missionGeometry with
      | some geometry => s.createByPolygon position geometry
      | none => s.createFlightByPoint position

def requestCreateFlightPlan (s : TelemetrySubmitter) : TelemetrySubmitter :=
  match s.flightPlan with
  | some plan => s.handleRequestCreateFlightPlanFinished plan
  | none =>
      if s.createFlightPlanRequested then s else s.issueCreateFlightPlan

/-! ## Ending the flights that are still active -/

def handleRequestEndActiveFlightsFinished
    (s : TelemetrySubmitter) : TelemetrySubmitter :=
  s.requestCreateFlightPlan

/-- Erase the first flight with the given id. -/
def eraseFlight (id : String) (flights : List Flight) : List Flight :=
  flights.eraseP (·.id == id)

def handleRequestEndActiveFlightFinished (id : String)
    (s : TelemetrySubmitter) : TelemetrySubmitter :=
  let s := s.access .activeFlights s.activeFlights.isSome
  let s := { s with activeFlights := s.activeFlights.map (eraseFlight id) }
  if (s.activeFlights.getD default).isEmpty
  then s.handleRequestEndActiveFlightsFinished else s

/-- One round of the loop in `request_end_active_flights`. -/
def endActiveFlight (s : TelemetrySubmitter) (flight : Flight) :
    TelemetrySubmitter :=
  let s := s.access (.authorization .endActiveFlight) s.authorization.isSome
  s.issue (.endActiveFlight (s.authorization.getD default) flight.id)

def issueEndActiveFlights (s : TelemetrySubmitter) : TelemetrySubmitter :=
  let s := { s with endActiveFlightsRequested := true }
  let s := s.access .activeFlights s.activeFlights.isSome
  (s.activeFlights.getD default).foldl endActiveFlight s

def requestEndActiveFlights (s : TelemetrySubmitter) : TelemetrySubmitter :=
  if s.activeFlights.isSome && (s.activeFlights.getD default).isEmpty
  then s.handleRequestEndActiveFlightsFinished
  else if s.endActiveFlightsRequested then s else s.issueEndActiveFlights

def handleRequestActiveFlightsFinished (flights : List Flight)
    (s : TelemetrySubmitter) : TelemetrySubmitter :=
  let s := { s with activeFlights := some flights }
  s.requestEndActiveFlights

def issueActiveFlights (s : TelemetrySubmitter) : TelemetrySubmitter :=
  let s := { s with activeFlightsRequested := true }
  s.issue (.search s.pilotId)

def requestActiveFlights (s : TelemetrySubmitter) : TelemetrySubmitter :=
  match s.activeFlights with
  | some flights => s.handleRequestActiveFlightsFinished flights
  | none => if s.activeFlightsRequested then s else s.issueActiveFlights

/-! ## Authorization and pilot -/

def handleRequestPilotIdFinished (pilotId : String)
    (s : TelemetrySubmitter) : TelemetrySubmitter :=
  let s := { s with pilotId := some pilotId }
  s.requestActiveFlights

def issuePilotId (s : TelemetrySubmitter) : TelemetrySubmitter :=
  let s := { s with pilotIdRequested := true }
  match s.authorization with
  | some authorization => s.issue (.authenticated authorization)
  | none => s

def requestPilotId (s : TelemetrySubmitter) : TelemetrySubmitter :=
  match s.pilotId with
  | some pilotId => s.handleRequestPilotIdFinished pilotId
  | none => if s.pilotIdRequested then s else s.issuePilotId

def handleRequestAuthorizationFinished (authorization : String)
    (s : TelemetrySubmitter) : TelemetrySubmitter :=
  let s := { s with authorization := some authorization }
  s.requestPilotId

def issueAuthorization (s : TelemetrySubmitter) : TelemetrySubmitter :=
  let s := { s with authorizationRequested := true }
  match s.credentials.oauth with
  | some oauth => s.issue (.authenticateWithPassword oauth)
  | none => s.issue .authenticateAnonymously

def requestAuthorization (s : TelemetrySubmitter) : TelemetrySubmitter :=
  match s.authorization with
  | some authorization => s.handleRequestAuthorizationFinished authorization
  | none => if s.authorizationRequested then s else s.issueAuthorization

/-! ## The public functions -/

/-- The assignment at the start of `activate`. -/
def enterActive (s : TelemetrySubmitter) : TelemetrySubmitter :=
  { s with state := .active, client := s.client.activate s.state }

def activate (s : TelemetrySubmitter) : TelemetrySubmitter :=
  s.enterActive.requestAuthorization

def setMissionGeometry (geometry : Geometry) (s : TelemetrySubmitter) :
    TelemetrySubmitter :=
  { s with missionGeometry := some geometry }

/-- What `deactivate` does to the members, `active_flights_` among those that
keep their value. -/
def reset (s : TelemetrySubmitter) : TelemetrySubmitter :=
  { s with
    authorizationRequested := false
    pilotIdRequested := false
    activeFlightsRequested := false
    endActiveFlightsRequested := false
    createFlightPlanRequested := false
    submitFlightPlanRequested := false
    trafficMonitoringRequested := false
    startFlightCommsRequested := false
    authorization := none
    pilotId := none
    flightPlan := none
    flight := none
    trafficMonitor := none
    encryptionKey := none }

def deactivate (s : TelemetrySubmitter) : TelemetrySubmitter :=
  match s.state with
  | .inactive => s
  | .active =>
      let s := { s with state := .inactive }
      match s.authorization, s.flight with
      | some authorization, some flight =>
          (s.issue (.endFlight authorization flight.id)).reset
      | _, _ => s.reset

def submit (position : Mavlink.GlobalPositionInt) (s : TelemetrySubmitter) :
    TelemetrySubmitter :=
  let s := { s with currentPosition := some position }
  match s.state with
  | .inactive => s
  | .active =>
      match s.authorization, s.flight, s.encryptionKey with
      | some _, some flight, some key =>
          s.record (.submittedUpdates flight key position)
      | _, _, _ => s.requestAuthorization

/-! ## Callbacks and steps -/

/-- The flight that the callback of a plan submission builds. -/
def flightOfPlan (plan : FlightPlan) : Flight where
  id := plan.flightId.getD default
  flightPlanId := some plan.id
  pilot := plan.pilot
  aircraft := plan.aircraft
  latitude := plan.takeoffLatitude
  longitude := plan.takeoffLongitude
  maxAltitude := plan.altitudeAglMax
  geometry := plan.geometry

/-- The callback that was handed over with a request; `none` for a value that
the request cannot have. -/
def callback (s : TelemetrySubmitter) : Request → Reply → Option TelemetrySubmitter
  | .authenticateWithPassword _, .authorization id
  | .authenticateAnonymously, .authorization id =>
      some (s.handleRequestAuthorizationFinished id)
  | .authenticateWithPassword _, .failure
  | .authenticateAnonymously, .failure =>
      some { s with authorizationRequested := false }
  | .authenticated _, .pilot id => some (s.handleRequestPilotIdFinished id)
  | .authenticated _, .failure => some { s with pilotIdRequested := false }
  | .search _, .flights flights =>
      some (s.handleRequestActiveFlightsFinished flights)
  | .search _, .failure => some { s with activeFlightsRequested := false }
  | .endActiveFlight _ id, .ended =>
      some (s.handleRequestEndActiveFlightFinished id)
  | .endActiveFlight _ _, .failure =>
      some { s with endActiveFlightsRequested := false }
  | .createByPolygon _, .plan plan =>
      some (s.handleRequestCreateFlightPlanFinished plan)
  | .createFlightByPoint _, .flight flight =>
      some (s.handleRequestSubmitFlightPlanFinished flight)
  | .createByPolygon _, .failure
  | .createFlightByPoint _, .failure =>
      some { s with createFlightPlanRequested := false }
  | .submitFlightPlan _ _, .plan plan =>
      let s := s.access .planFlightId plan.flightId.isSome
      some (s.handleRequestSubmitFlightPlanFinished (flightOfPlan plan))
  | .submitFlightPlan _ _, .failure =>
      some { s with submitFlightPlanRequested := false }
  | .monitor _ _, .monitor monitor =>
      some (s.handleRequestMonitorTrafficFinished monitor)
  | .monitor _ _, .failure => some { s with trafficMonitoringRequested := false }
  | .startFlightCommunications _ _, .key key =>
      some (s.handleRequestStartFlightCommsFinished key)
  | .startFlightCommunications _ _, .failure =>
      some { s with startFlightCommsRequested := false }
  | .endFlight _ _, .ended | .endFlight _ _, .failure => some s
  | _, _ => none

/-- What can happen to a submitter: a call of one of its public functions, or
the callback of the `i`-th request that waits for an answer. -/
inductive Event where
  | activate
  | deactivate
  | submit (position : Mavlink.GlobalPositionInt)
  | setMissionGeometry (geometry : Geometry)
  | answer (i : ℕ) (reply : Reply)

/-- The answer to the `i`-th outstanding request is taken from the client. -/
def answered (s : TelemetrySubmitter) (i : ℕ) (ticket : Ticket) (reply : Reply) :
    TelemetrySubmitter :=
  { s with client := s.client.answer i ticket reply }

def step (s : TelemetrySubmitter) : Event → Option TelemetrySubmitter
  | .activate => some s.activate
  | .deactivate => some s.deactivate
  | .submit position => some (s.submit position)
  | .setMissionGeometry geometry => some (s.setMissionGeometry geometry)
  | .answer i reply =>
      match s.client.outstanding[i]? with
      | some ticket => (s.answered i ticket reply).callback ticket.request reply
      | none => none

/-- A submitter as `create` returns it. -/
def create (credentials : Credentials) (aircraftId : String) :
    TelemetrySubmitter :=
  { credentials := credentials, aircraftId := aircraftId }

end TelemetrySubmitter
end Airmap.Monitor
