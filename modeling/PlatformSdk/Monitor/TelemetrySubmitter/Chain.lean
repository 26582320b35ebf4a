import Mathlib.Logic.Relation
import PlatformSdk.Machine.History
import PlatformSdk.Monitor.TelemetrySubmitter

/-!
# Chains of requests

Every public function and every callback of the submitter stores at most a few
values and then runs down one chain of `request_*` functions.  Along that chain
no stored value changes: it only sets `*_requested` flags and calls the client.
This module says so once: `Action` is one call of a chain with its guards, and
`Extends` is what a whole chain leaves behind.
-/

namespace Airmap.Monitor.TelemetrySubmitter

/-- One call made by a chain, with the guards under which it is made. -/
inductive Action : TelemetrySubmitter → TelemetrySubmitter → Prop where
  | authorization {s : TelemetrySubmitter}
      (hvalue : s.authorization = none)
      (hflag : s.authorizationRequested = false) :
      Action s s.issueAuthorization
  | pilotId {s : TelemetrySubmitter}
      (hauthorization : s.authorization.isSome)
      (hvalue : s.pilotId = none) (hflag : s.pilotIdRequested = false) :
      Action s s.issuePilotId
  | activeFlights {s : TelemetrySubmitter}
      (hvalue : s.activeFlights = none)
      (hflag : s.activeFlightsRequested = false) :
      Action s s.issueActiveFlights
  | endActiveFlights {s : TelemetrySubmitter} {first : Flight}
      {rest : List Flight}
      (hflights : s.activeFlights = some (first :: rest))
      (hflag : s.endActiveFlightsRequested = false) :
      Action s s.issueEndActiveFlights
  | createFlightPlan {s : TelemetrySubmitter}
      (hflights : s.activeFlights = some [])
      (hvalue : s.flightPlan = none)
      (hflag : s.createFlightPlanRequested = false) :
      Action s s.issueCreateFlightPlan
  | submitFlightPlan {s : TelemetrySubmitter} {plan : FlightPlan}
      (hplan : s.flightPlan = some plan)
      (hvalue : s.flight = none) (hflag : s.submitFlightPlanRequested = false) :
      Action s s.issueSubmitFlightPlan
  | monitorTraffic {s : TelemetrySubmitter} {flight : Flight}
      (hflight : s.flight = some flight)
      (hvalue : s.trafficMonitor = none)
      (hflag : s.trafficMonitoringRequested = false) :
      Action s s.issueMonitorTraffic
  | subscribe {s : TelemetrySubmitter} {monitor : ℕ}
      (hvalue : s.trafficMonitor = some monitor) :
      Action s (s.record (.subscribed monitor))
  | startFlightComms {s : TelemetrySubmitter} {flight : Flight}
      (hflight : s.flight = some flight)
      (hvalue : s.encryptionKey = none)
      (hflag : s.startFlightCommsRequested = false) :
      Action s s.issueStartFlightComms

/-- A chain of calls. -/
abbrev Chain := Relation.ReflTransGen Action

theorem Chain.refl {s : TelemetrySubmitter} : Chain s s :=
  Relation.ReflTransGen.refl

/-! ## The request functions are chains -/

variable {s s' : TelemetrySubmitter}

theorem requestStartFlightComms_chain {flight : Flight}
    (hflight : s.flight = some flight) : Chain s s.requestStartFlightComms := by
  cases hvalue : s.encryptionKey with
  | some key =>
      simp only [requestStartFlightComms, hvalue,
        handleRequestStartFlightCommsFinished]
      rw [← hvalue]
  | none =>
      cases hflag : s.startFlightCommsRequested with
      | true => simp [requestStartFlightComms, hvalue, hflag, Chain.refl]
      | false =>
          have hissue : s.requestStartFlightComms = s.issueStartFlightComms := by
            simp [requestStartFlightComms, hvalue, hflag]
          rw [hissue]
          exact .single (.startFlightComms hflight hvalue hflag)

theorem requestMonitorTraffic_chain {flight : Flight}
    (hflight : s.flight = some flight) : Chain s s.requestMonitorTraffic := by
  cases hvalue : s.trafficMonitor with
  | some monitor =>
      have hsubscribe : s.requestMonitorTraffic =
          s.record (.subscribed monitor) := by
        simp only [requestMonitorTraffic, hvalue,
          handleRequestMonitorTrafficFinished]
        rw [← hvalue]
      rw [hsubscribe]
      exact .single (.subscribe hvalue)
  | none =>
      cases hflag : s.trafficMonitoringRequested with
      | true => simp [requestMonitorTraffic, hvalue, hflag, Chain.refl]
      | false =>
          have hissue : s.requestMonitorTraffic = s.issueMonitorTraffic := by
            simp [requestMonitorTraffic, hvalue, hflag]
          rw [hissue]
          exact .single (.monitorTraffic hflight hvalue hflag)

@[simp] theorem requestMonitorTraffic_flight (s : TelemetrySubmitter) :
    s.requestMonitorTraffic.flight = s.flight := by
  rw [requestMonitorTraffic]
  repeat' split
  all_goals rfl

@[simp] theorem requestMonitorTraffic_startFlightCommsRequested
    (s : TelemetrySubmitter) :
    s.requestMonitorTraffic.startFlightCommsRequested =
      s.startFlightCommsRequested := by
  rw [requestMonitorTraffic]
  repeat' split
  all_goals rfl

theorem handleRequestSubmitFlightPlanFinished_chain (flight : Flight)
    (s : TelemetrySubmitter) :
    Chain { s with flight := some flight }
      (s.handleRequestSubmitFlightPlanFinished flight) := by
  have hmonitor := requestMonitorTraffic_chain
    (s := { s with flight := some flight }) rfl
  exact hmonitor.trans
    (requestStartFlightComms_chain (requestMonitorTraffic_flight _))

theorem requestSubmitFlightPlan_chain {plan : FlightPlan}
    (hplan : s.flightPlan = some plan) : Chain s s.requestSubmitFlightPlan := by
  cases hvalue : s.flight with
  | some flight =>
      have hchain := handleRequestSubmitFlightPlanFinished_chain flight s
      rw [← hvalue] at hchain
      rw [requestSubmitFlightPlan, hvalue]
      exact hchain
  | none =>
      cases hflag : s.submitFlightPlanRequested with
      | true => simp [requestSubmitFlightPlan, hvalue, hflag, Chain.refl]
      | false =>
          have hissue : s.requestSubmitFlightPlan = s.issueSubmitFlightPlan := by
            simp [requestSubmitFlightPlan, hvalue, hflag]
          rw [hissue]
          exact .single (.submitFlightPlan hplan hvalue hflag)

theorem handleRequestCreateFlightPlanFinished_chain (plan : FlightPlan)
    (s : TelemetrySubmitter) :
    Chain { s with flightPlan := some plan }
      (s.handleRequestCreateFlightPlanFinished plan) :=
  requestSubmitFlightPlan_chain (s := { s with flightPlan := some plan }) rfl

theorem requestCreateFlightPlan_chain
    (hflights : s.activeFlights = some []) :
    Chain s s.requestCreateFlightPlan := by
  cases hvalue : s.flightPlan with
  | some plan =>
      have hchain := handleRequestCreateFlightPlanFinished_chain plan s
      rw [← hvalue] at hchain
      rw [requestCreateFlightPlan, hvalue]
      exact hchain
  | none =>
      cases hflag : s.createFlightPlanRequested with
      | true => simp [requestCreateFlightPlan, hvalue, hflag, Chain.refl]
      | false =>
          have hissue : s.requestCreateFlightPlan = s.issueCreateFlightPlan := by
            simp [requestCreateFlightPlan, hvalue, hflag]
          rw [hissue]
          exact .single (.createFlightPlan hflights hvalue hflag)

theorem requestEndActiveFlights_chain {flights : List Flight}
    (hflights : s.activeFlights = some flights) :
    Chain s s.requestEndActiveFlights := by
  cases flights with
  | nil =>
      have hcreate : s.requestEndActiveFlights = s.requestCreateFlightPlan := by
        simp [requestEndActiveFlights, hflights,
          handleRequestEndActiveFlightsFinished]
      rw [hcreate]
      exact requestCreateFlightPlan_chain hflights
  | cons first rest =>
      cases hflag : s.endActiveFlightsRequested with
      | true => simp [requestEndActiveFlights, hflights, hflag, Chain.refl]
      | false =>
          have hissue : s.requestEndActiveFlights = s.issueEndActiveFlights := by
            simp [requestEndActiveFlights, hflights, hflag]
          rw [hissue]
          exact .single (.endActiveFlights hflights hflag)

theorem handleRequestActiveFlightsFinished_chain (flights : List Flight)
    (s : TelemetrySubmitter) :
    Chain { s with activeFlights := some flights }
      (s.handleRequestActiveFlightsFinished flights) :=
  requestEndActiveFlights_chain
    (s := { s with activeFlights := some flights }) rfl

theorem handleRequestEndActiveFlightFinished_chain (id : String)
    (hknown : s.activeFlights.isSome) :
    Chain { s with activeFlights := s.activeFlights.map (eraseFlight id) }
      (s.handleRequestEndActiveFlightFinished id) := by
  obtain ⟨flights, hflights⟩ := Option.isSome_iff_exists.mp hknown
  simp only [handleRequestEndActiveFlightFinished, access, Client.access,
    hflights, Option.isSome_some, if_true, Option.map_some, Option.getD_some]
  cases hrest : eraseFlight id flights with
  | nil => exact requestCreateFlightPlan_chain rfl
  | cons first rest => exact .refl

theorem requestActiveFlights_chain (s : TelemetrySubmitter) :
    Chain s s.requestActiveFlights := by
  cases hvalue : s.activeFlights with
  | some flights =>
      have hchain := handleRequestActiveFlightsFinished_chain flights s
      rw [← hvalue] at hchain
      rw [requestActiveFlights, hvalue]
      exact hchain
  | none =>
      cases hflag : s.activeFlightsRequested with
      | true => simp [requestActiveFlights, hvalue, hflag, Chain.refl]
      | false =>
          have hissue : s.requestActiveFlights = s.issueActiveFlights := by
            simp [requestActiveFlights, hvalue, hflag]
          rw [hissue]
          exact .single (.activeFlights hvalue hflag)

theorem handleRequestPilotIdFinished_chain (pilotId : String)
    (s : TelemetrySubmitter) :
    Chain { s with pilotId := some pilotId }
      (s.handleRequestPilotIdFinished pilotId) :=
  requestActiveFlights_chain { s with pilotId := some pilotId }

theorem requestPilotId_chain (hauthorization : s.authorization.isSome) :
    Chain s s.requestPilotId := by
  cases hvalue : s.pilotId with
  | some pilotId =>
      have hchain := handleRequestPilotIdFinished_chain pilotId s
      rw [← hvalue] at hchain
      rw [requestPilotId, hvalue]
      exact hchain
  | none =>
      cases hflag : s.pilotIdRequested with
      | true => simp [requestPilotId, hvalue, hflag, Chain.refl]
      | false =>
          have hissue : s.requestPilotId = s.issuePilotId := by
            simp [requestPilotId, hvalue, hflag]
          rw [hissue]
          exact .single (.pilotId hauthorization hvalue hflag)

theorem handleRequestAuthorizationFinished_chain (authorization : String)
    (s : TelemetrySubmitter) :
    Chain { s with authorization := some authorization }
      (s.handleRequestAuthorizationFinished authorization) :=
  requestPilotId_chain
    (s := { s with authorization := some authorization }) rfl

theorem requestAuthorization_chain (s : TelemetrySubmitter) :
    Chain s s.requestAuthorization := by
  cases hvalue : s.authorization with
  | some authorization =>
      have hchain := handleRequestAuthorizationFinished_chain authorization s
      rw [← hvalue] at hchain
      rw [requestAuthorization, hvalue]
      exact hchain
  | none =>
      cases hflag : s.authorizationRequested with
      | true => simp [requestAuthorization, hvalue, hflag, Chain.refl]
      | false =>
          have hissue : s.requestAuthorization = s.issueAuthorization := by
            simp [requestAuthorization, hvalue, hflag]
          rw [hissue]
          exact .single (.authorization hvalue hflag)

/-! ## What each call writes -/

theorem issueAuthorization_frame (s : TelemetrySubmitter) :
    ∃ client, s.issueAuthorization =
      { s with authorizationRequested := true, client := client } := by
  rw [issueAuthorization]
  dsimp only
  split <;> exact ⟨_, rfl⟩

theorem issuePilotId_frame (s : TelemetrySubmitter) :
    ∃ client, s.issuePilotId =
      { s with pilotIdRequested := true, client := client } := by
  rw [issuePilotId]
  dsimp only
  split <;> exact ⟨_, rfl⟩

theorem foldl_endActiveFlight_frame (flights : List Flight)
    (s : TelemetrySubmitter) :
    ∃ client, flights.foldl endActiveFlight s = { s with client := client } := by
  induction flights generalizing s with
  | nil => exact ⟨_, rfl⟩
  | cons flight flights ih =>
      obtain ⟨client, hclient⟩ := ih (s.endActiveFlight flight)
      exact ⟨client, hclient⟩

theorem issueEndActiveFlights_frame (s : TelemetrySubmitter) :
    ∃ client, s.issueEndActiveFlights =
      { s with endActiveFlightsRequested := true, client := client } := by
  obtain ⟨client, hclient⟩ := foldl_endActiveFlight_frame
    (s.activeFlights.getD default)
    ({ s with endActiveFlightsRequested := true }.access .activeFlights
      s.activeFlights.isSome)
  exact ⟨client, hclient⟩

theorem issueCreateFlightPlan_frame (s : TelemetrySubmitter) :
    ∃ client, s.issueCreateFlightPlan =
      { s with createFlightPlanRequested := true, client := client } := by
  rw [issueCreateFlightPlan]
  dsimp only
  split
  · exact ⟨_, rfl⟩
  · split <;> exact ⟨_, rfl⟩

/-! ## What a chain leaves behind -/

/-- The members that a chain reads and does not change. -/
structure Stored where
  state : State
  activations : ℕ
  currentPosition : Option Mavlink.GlobalPositionInt
  activeFlights : Option (List Flight)
  flightPlan : Option FlightPlan
  flight : Option Flight
  authorization : Option String
  trafficMonitor : Option ℕ
  encryptionKey : Option String
  missionGeometry : Option Geometry
  pilotId : Option String

/-- The stored members of a submitter. -/
def stored (s : TelemetrySubmitter) : Stored where
  state := s.state
  activations := s.client.activations
  currentPosition := s.currentPosition
  activeFlights := s.activeFlights
  flightPlan := s.flightPlan
  flight := s.flight
  authorization := s.authorization
  trafficMonitor := s.trafficMonitor
  encryptionKey := s.encryptionKey
  missionGeometry := s.missionGeometry
  pilotId := s.pilotId

/-- A chain that finds these values stored may issue a request of this kind. -/
def Stored.Due (v : Stored) : Request.Kind → Prop
  | .authentication => v.authorization = none
  | .pilot => v.authorization.isSome ∧ v.pilotId = none
  | .search => v.activeFlights = none
  | .endActiveFlight => ∃ first rest, v.activeFlights = some (first :: rest)
  | .creation =>
      v.activeFlights = some [] ∧ v.flightPlan = none ∧
        v.currentPosition.isSome
  | .submission => v.flightPlan.isSome ∧ v.flight = none
  | .monitoring => v.flight.isSome ∧ v.trafficMonitor = none
  | .communications => v.flight.isSome ∧ v.encryptionKey = none
  | .endFlight => False

/-- A chain that finds these values stored may read this without a value. -/
def Stored.Unmet (v : Stored) : Access → Prop
  | .authorization purpose => v.authorization = none ∧ v.Due purpose
  | .pilotId =>
      v.pilotId = none ∧ v.Due .creation ∧ v.missionGeometry.isSome
  | .detailsForPolygon | .maxElement | .altitude =>
      v.Due .creation ∧
        ∃ geometry, v.missionGeometry = some geometry ∧
          ¬ geometry.IsRingWithAltitudes
  | .activeFlights | .flightPlan | .flight | .planFlightId => False

/-- A chain that finds these values stored may make this entry. -/
def Stored.Permits (v : Stored) : Entry → Prop
  | .issued ticket =>
      ticket.state = v.state ∧ ticket.activation = v.activations ∧
        v.Due ticket.request.kind
  | .subscribed _ => True
  | .undefined what => v.Unmet what
  | .answered _ _ | .submittedUpdates _ _ _ => False

/-- The entry is neither an answer nor a telemetry update. -/
def Entry.IsOwn : Entry → Prop
  | .answered _ _ | .submittedUpdates _ _ _ => False
  | .issued _ | .subscribed _ | .undefined _ => True

theorem Stored.Permits.isOwn {v : Stored} {entry : Entry} (h : v.Permits entry) :
    Entry.IsOwn entry := by
  cases entry with
  | answered | submittedUpdates => exact h
  | _ => trivial

/-- `s'` is `s` after calls that its stored values permit. -/
structure Extends (s s' : TelemetrySubmitter) : Prop where
  stored : s'.stored = s.stored
  outstanding : ∃ tickets,
    s'.client.outstanding = s.client.outstanding ++ tickets ∧
      ∀ ticket ∈ tickets, s.stored.Permits (.issued ticket)
  history : Machine.GrowsBy s.stored.Permits s.client.history s'.client.history

namespace Extends

theorem refl (s : TelemetrySubmitter) : Extends s s where
  stored := rfl
  outstanding := ⟨[], by simp⟩
  history := .refl _

theorem trans {s s' s'' : TelemetrySubmitter} (h : Extends s s')
    (h' : Extends s' s'') : Extends s s'' := by
  obtain ⟨tickets, htickets, hissued⟩ := h.outstanding
  obtain ⟨tickets', htickets', hissued'⟩ := h'.outstanding
  have hpermits := h'.history
  rw [h.stored] at hissued' hpermits
  refine ⟨h'.stored.trans h.stored, ⟨tickets ++ tickets', ?_, ?_⟩,
    h.history.trans hpermits⟩
  · rw [htickets', htickets, List.append_assoc]
  · intro ticket hticket
    rcases List.mem_append.mp hticket with hmem | hmem
    · exact hissued ticket hmem
    · exact hissued' ticket hmem

/-- A chain neither answers a request nor sends telemetry. -/
theorem own (h : Extends s s') :
    Machine.GrowsBy Entry.IsOwn s.client.history s'.client.history :=
  h.history.mono fun _ => Stored.Permits.isOwn

/-- Flags are not among the stored values. -/
theorem of_eq (hstored : s'.stored = s.stored) (hclient : s'.client = s.client) :
    Extends s s' where
  stored := hstored
  outstanding := ⟨[], by simp [hclient]⟩
  history := by rw [hclient]; exact .refl _

theorem issue (h : Extends s s') (request : Request)
    (hdue : s.stored.Due request.kind) : Extends s (s'.issue request) := by
  have hpermits : s'.stored.Permits
      (.issued ⟨request, s'.client.activations, s'.state⟩) := by
    refine ⟨rfl, rfl, ?_⟩
    rw [h.stored]
    exact hdue
  refine h.trans ⟨rfl, ⟨_, rfl, ?_⟩, (Machine.GrowsBy.refl _).cons hpermits⟩
  intro ticket hticket
  rw [List.mem_singleton.mp hticket]
  exact hpermits

theorem access (h : Extends s s') {what : Access} {ok : Bool}
    (hok : ok = false → s.stored.Unmet what) : Extends s (s'.access what ok) := by
  cases ok with
  | true => exact h.trans (of_eq rfl rfl)
  | false =>
      have hunmet : s'.stored.Permits (.undefined what) := by
        rw [h.stored]
        exact hok rfl
      exact h.trans ⟨rfl, ⟨[], by simp [TelemetrySubmitter.access,
        Client.access, Client.record]⟩, (Machine.GrowsBy.refl _).cons hunmet⟩

theorem subscribed (h : Extends s s') (monitor : ℕ) :
    Extends s (s'.record (.subscribed monitor)) := by
  exact h.trans ⟨rfl, ⟨[], by simp [record, Client.record]⟩,
    (Machine.GrowsBy.refl _).cons trivial⟩

end Extends

theorem issueAuthorization_extends (hvalue : s.authorization = none) :
    Extends s s.issueAuthorization := by
  have hset : Extends s { s with authorizationRequested := true } :=
    .of_eq rfl rfl
  simp only [issueAuthorization]
  split
  · exact hset.issue (.authenticateWithPassword _) hvalue
  · exact hset.issue .authenticateAnonymously hvalue

theorem issuePilotId_extends (hauthorization : s.authorization.isSome)
    (hvalue : s.pilotId = none) : Extends s s.issuePilotId := by
  have hset : Extends s { s with pilotIdRequested := true } := .of_eq rfl rfl
  simp only [issuePilotId]
  split
  · exact hset.issue (.authenticated _) ⟨hauthorization, hvalue⟩
  · exact hset

theorem issueActiveFlights_extends (hvalue : s.activeFlights = none) :
    Extends s s.issueActiveFlights := by
  have hset : Extends s { s with activeFlightsRequested := true } :=
    .of_eq rfl rfl
  exact hset.issue (.search _) hvalue

/-- One round of the clean-up loop issues one request. -/
theorem endActiveFlight_extends (h : Extends s s') (flight : Flight)
    (hdue : s.stored.Due .endActiveFlight) :
    Extends s (s'.endActiveFlight flight) := by
  have hauthorization := congrArg Stored.authorization h.stored
  refine (h.access ?_).issue (.endActiveFlight _ _) hdue
  intro hunset
  refine ⟨?_, hdue⟩
  rw [← hauthorization]
  simpa [stored] using hunset

theorem foldl_endActiveFlight_extends (flights : List Flight)
    (h : Extends s s') (hdue : s.stored.Due .endActiveFlight) :
    Extends s (flights.foldl endActiveFlight s') := by
  induction flights generalizing s' with
  | nil => exact h
  | cons flight flights ih =>
      exact ih (endActiveFlight_extends h flight hdue)

theorem issueEndActiveFlights_extends {first : Flight} {rest : List Flight}
    (hflights : s.activeFlights = some (first :: rest)) :
    Extends s s.issueEndActiveFlights := by
  have hset : Extends s { s with endActiveFlightsRequested := true } :=
    .of_eq rfl rfl
  apply foldl_endActiveFlight_extends
  · exact hset.access (by simp [hflights])
  · exact ⟨first, rest, hflights⟩

theorem createByPolygon_extends (h : Extends s s')
    {position : Mavlink.GlobalPositionInt} {geometry : Geometry}
    (hdue : s.stored.Due .creation)
    (hgeometry : s.missionGeometry = some geometry) :
    Extends s (s'.createByPolygon position geometry) := by
  have hauthorization := congrArg Stored.authorization h.stored
  have hpilot := congrArg Stored.pilotId h.stored
  have hmission : ¬ geometry.IsRingWithAltitudes →
      s.stored.Unmet .detailsForPolygon :=
    fun hring => ⟨hdue, geometry, hgeometry, hring⟩
  refine Extends.issue
    (.access (.access (.access (.access (.access h ?_) ?_) ?_) ?_) ?_)
    (.createByPolygon _) hdue
  · intro hunset
    refine ⟨?_, hdue⟩
    rw [← hauthorization]
    simpa [stored] using hunset
  · intro hunset
    refine ⟨?_, hdue, ?_⟩
    · rw [← hpilot]
      simpa [stored, TelemetrySubmitter.access] using hunset
    · simp [stored, hgeometry]
  · intro hkind
    apply hmission
    intro hring
    simp [hring.1] at hkind
  · intro hempty
    apply hmission
    intro hring
    apply hring.2.1
    cases hcoordinates : geometry.detailsForPolygon.outerRing with
    | nil => rfl
    | cons first rest => simp [hcoordinates, maxElement] at hempty
  · intro haltitude
    apply hmission
    intro hring
    rw [hring.2.2] at haltitude
    exact Bool.noConfusion haltitude

theorem createFlightByPoint_extends (h : Extends s s')
    {position : Mavlink.GlobalPositionInt} (hdue : s.stored.Due .creation) :
    Extends s (s'.createFlightByPoint position) := by
  have hauthorization := congrArg Stored.authorization h.stored
  refine (h.access ?_).issue (.createFlightByPoint _) hdue
  intro hunset
  refine ⟨?_, hdue⟩
  rw [← hauthorization]
  simpa [stored] using hunset

theorem issueCreateFlightPlan_extends (hflights : s.activeFlights = some [])
    (hvalue : s.flightPlan = none) : Extends s s.issueCreateFlightPlan := by
  have hset : Extends s { s with createFlightPlanRequested := true } :=
    .of_eq rfl rfl
  simp only [issueCreateFlightPlan]
  split
  · exact hset
  next position hposition =>
    have hdue : s.stored.Due .creation :=
      ⟨hflights, hvalue, by simp [stored, hposition]⟩
    split
    next geometry hgeometry => exact createByPolygon_extends hset hdue hgeometry
    next => exact createFlightByPoint_extends hset hdue

theorem issueSubmitFlightPlan_extends {plan : FlightPlan}
    (hplan : s.flightPlan = some plan) (hvalue : s.flight = none) :
    Extends s s.issueSubmitFlightPlan := by
  have hset : Extends s { s with submitFlightPlanRequested := true } :=
    .of_eq rfl rfl
  have hdue : s.stored.Due .submission := ⟨by simp [stored, hplan], hvalue⟩
  refine ((hset.access ?_).access ?_).issue (.submitFlightPlan _ _)
    hdue
  · intro hunset
    exact ⟨by simpa [stored] using hunset, hdue⟩
  · simp [TelemetrySubmitter.access, hplan]

theorem issueMonitorTraffic_extends {flight : Flight}
    (hflight : s.flight = some flight) (hvalue : s.trafficMonitor = none) :
    Extends s s.issueMonitorTraffic := by
  have hset : Extends s { s with trafficMonitoringRequested := true } :=
    .of_eq rfl rfl
  have hdue : s.stored.Due .monitoring := ⟨by simp [stored, hflight], hvalue⟩
  refine ((hset.access ?_).access ?_).issue (.monitor _ _) hdue
  · simp [hflight]
  · intro hunset
    exact ⟨by simpa [stored, TelemetrySubmitter.access] using hunset, hdue⟩

theorem issueStartFlightComms_extends {flight : Flight}
    (hflight : s.flight = some flight) (hvalue : s.encryptionKey = none) :
    Extends s s.issueStartFlightComms := by
  have hset : Extends s { s with startFlightCommsRequested := true } :=
    .of_eq rfl rfl
  have hdue : s.stored.Due .communications :=
    ⟨by simp [stored, hflight], hvalue⟩
  refine ((hset.access ?_).access ?_).issue
    (.startFlightCommunications _ _) hdue
  · intro hunset
    exact ⟨by simpa [stored] using hunset, hdue⟩
  · simp [TelemetrySubmitter.access, hflight]

theorem Action.extends (h : Action s s') : Extends s s' := by
  cases h with
  | authorization hvalue hflag => exact issueAuthorization_extends hvalue
  | pilotId hauthorization hvalue hflag =>
      exact issuePilotId_extends hauthorization hvalue
  | activeFlights hvalue hflag => exact issueActiveFlights_extends hvalue
  | endActiveFlights hflights hflag => exact issueEndActiveFlights_extends hflights
  | createFlightPlan hflights hvalue hflag =>
      exact issueCreateFlightPlan_extends hflights hvalue
  | submitFlightPlan hplan hvalue hflag =>
      exact issueSubmitFlightPlan_extends hplan hvalue
  | monitorTraffic hflight hvalue hflag =>
      exact issueMonitorTraffic_extends hflight hvalue
  | subscribe hvalue => exact (Extends.refl s).subscribed _
  | startFlightComms hflight hvalue hflag =>
      exact issueStartFlightComms_extends hflight hvalue

/-- A chain keeps all stored values and only adds calls that they permit. -/
theorem chain_extends (h : Chain s s') : Extends s s' := by
  induction h with
  | refl => exact .refl s
  | tail _ haction ih => exact ih.trans haction.extends

end Airmap.Monitor.TelemetrySubmitter
