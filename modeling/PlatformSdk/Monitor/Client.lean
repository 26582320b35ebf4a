import PlatformSdk.Mavlink.Message

/-!
# The client seen by the telemetry submitter

The submitter talks to `airmap::Client` by requests that are answered later.
The model keeps the requests that wait for an answer and the history of all
calls and answers, newest first.  Timestamps of the requests are left out:
nothing in the submitter reads them back.
-/

namespace Airmap

/-- `Flight`, without its points in time. -/
structure Flight where
  id : String
  flightPlanId : Option String := none
  pilot : String := ""
  aircraft : String := ""
  latitude : Double := default
  longitude : Double := default
  maxAltitude : Double := default
  geometry : Geometry := .invalid
  deriving Inhabited

/-- `FlightPlan`, the fields that the submitter copies to a flight. -/
structure FlightPlan where
  id : String
  flightId : Option String := none
  pilot : String := ""
  aircraft : String := ""
  takeoffLatitude : Double := default
  takeoffLongitude : Double := default
  altitudeAglMax : Double := default
  geometry : Geometry := .invalid
  deriving Inhabited

/-- `Credentials::OAuth`, the parameters of a password login. -/
structure Credentials.OAuth where
  clientId : String := ""
  deviceId : String := ""
  username : String := ""
  password : String := ""
  deriving DecidableEq, Inhabited

/-- `Credentials`. -/
structure Credentials where
  apiKey : String := ""
  oauth : Option Credentials.OAuth := none
  deriving DecidableEq, Inhabited

namespace Monitor

/-- `FlightPlans::Create::Parameters`; the position is in the units of the
message it was taken from, 1E-7 degrees. -/
structure CreateByPolygon where
  authorization : String
  latitude : Int32
  longitude : Int32
  aircraft : Option String
  pilot : String
  geometry : Geometry
  buffer : Nat
  maxAltitude : Double

/-- `Flights::CreateFlight::Parameters`, in the same units. -/
structure CreateFlightByPoint where
  authorization : String
  latitude : Int32
  longitude : Int32
  aircraftId : String

/-- The requests of the submitter with their parameters.  `endFlight` is the
one that `deactivate` issues and `endActiveFlight` the one of the clean-up:
both call `Flights::end_flight`, with different callbacks. -/
inductive Request where
  | authenticateWithPassword (oauth : Credentials.OAuth)
  | authenticateAnonymously
  | authenticated (authorization : String)
  | search (pilotId : Option String)
  | endActiveFlight (authorization id : String)
  | createByPolygon (parameters : CreateByPolygon)
  | createFlightByPoint (parameters : CreateFlightByPoint)
  | submitFlightPlan (authorization id : String)
  | monitor (flightId authorization : String)
  | startFlightCommunications (authorization id : String)
  | endFlight (authorization id : String)

/-- What a request asks for; the two ways to authenticate and the two ways to
create a flight are one kind each. -/
inductive Request.Kind where
  | authentication
  | pilot
  | search
  | endActiveFlight
  | creation
  | submission
  | monitoring
  | communications
  | endFlight
  deriving DecidableEq, Repr

def Request.kind : Request → Request.Kind
  | .authenticateWithPassword _ | .authenticateAnonymously => .authentication
  | .authenticated _ => .pilot
  | .search _ => .search
  | .endActiveFlight _ _ => .endActiveFlight
  | .createByPolygon _ | .createFlightByPoint _ => .creation
  | .submitFlightPlan _ _ => .submission
  | .monitor _ _ => .monitoring
  | .startFlightCommunications _ _ => .communications
  | .endFlight _ _ => .endFlight

/-- What a callback is given: the error of any request, or the part of its
value that the submitter reads. -/
inductive Reply where
  | failure
  | authorization (id : String)
  | pilot (id : String)
  | flights (flights : List Flight)
  | ended
  | plan (plan : FlightPlan)
  | flight (flight : Flight)
  | monitor (monitor : ℕ)
  | key (key : String)

/-- `TelemetrySubmitter::State`. -/
inductive State where
  | active
  | inactive
  deriving DecidableEq, Repr

/-- An issued request, with the number of activations begun and the state of
the submitter when it was issued. -/
structure Ticket where
  request : Request
  activation : ℕ
  state : State

/-- The reads of the submitter whose result the source leaves undefined when
their condition does not hold; the authorization is read for requests of five kinds. -/
inductive Access where
  | authorization (purpose : Request.Kind)
  | pilotId
  | activeFlights
  | flightPlan
  | flight
  | planFlightId
  | detailsForPolygon
  | maxElement
  | altitude
  deriving DecidableEq, Repr

/-- What the history of a run records. -/
inductive Entry where
  | issued (ticket : Ticket)
  | answered (ticket : Ticket) (reply : Reply)
  | submittedUpdates (flight : Flight) (key : String)
      (position : Mavlink.GlobalPositionInt)
  | subscribed (monitor : ℕ)
  | undefined (access : Access)

/-- The client: requests that wait for an answer, oldest first, and history. -/
structure Client where
  activations : ℕ := 0
  outstanding : List Ticket := []
  history : List Entry := []

namespace Client

def record (c : Client) (entry : Entry) : Client :=
  { c with history := entry :: c.history }

def issue (c : Client) (state : State) (request : Request) : Client :=
  let ticket : Ticket := ⟨request, c.activations, state⟩
  { c with
    outstanding := c.outstanding ++ [ticket]
    history := .issued ticket :: c.history }

/-- A read that is defined only when `ok` holds. -/
def access (c : Client) (what : Access) (ok : Bool) : Client :=
  if ok then c else c.record (.undefined what)

/-- Take the answer to the `i`-th outstanding request. -/
def answer (c : Client) (i : ℕ) (ticket : Ticket) (reply : Reply) : Client :=
  { c with
    outstanding := c.outstanding.eraseIdx i
    history := .answered ticket reply :: c.history }

/-- A change from inactive to active begins an activation. -/
def activate (c : Client) (state : State) : Client :=
  match state with
  | .inactive => { c with activations := c.activations + 1 }
  | .active => c

end Client
end Monitor
end Airmap
