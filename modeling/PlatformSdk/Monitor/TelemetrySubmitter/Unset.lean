import PlatformSdk.Mavlink.Vehicle
import PlatformSdk.Monitor.TelemetrySubmitter.Reach

/-!
# Reads of unset values

Each function of a chain reads a few members without asking whether they are
set.  `*Ready` says, function by function from the end of the chain to its
start, what has to be set for the rest of the chain to read only set values,
and the `_readsSet` lemmas say that it is exactly that.
-/

namespace Airmap.Monitor

/-- The entry is not a read of an unset value. -/
def Entry.Defined : Entry → Prop
  | .undefined _ => False
  | _ => True

instance : DecidablePred Entry.Defined
  | .undefined _ => inferInstanceAs (Decidable False)
  | .issued _ | .answered _ _ | .submittedUpdates _ _ _ | .subscribed _ =>
      inferInstanceAs (Decidable True)

/-- No unset value was read. -/
def Client.ReadsSet (c : Client) : Prop :=
  ∀ entry ∈ c.history, entry.Defined

instance : DecidablePred Client.ReadsSet := fun _ =>
  inferInstanceAs (Decidable (∀ _ ∈ _, _))

namespace Client

variable {c : Client}

@[simp] theorem readsSet_issue {state : State} {request : Request} :
    (c.issue state request).ReadsSet ↔ c.ReadsSet := by
  simp [ReadsSet, issue, Entry.Defined]

@[simp] theorem readsSet_access {what : Access} {ok : Bool} :
    (c.access what ok).ReadsSet ↔ c.ReadsSet ∧ ok = true := by
  cases ok with
  | true => simp [access]
  | false => simp [ReadsSet, access, record, Entry.Defined]

@[simp] theorem readsSet_subscribed {monitor : ℕ} :
    (c.record (.subscribed monitor)).ReadsSet ↔ c.ReadsSet := by
  simp [ReadsSet, record, Entry.Defined]

@[simp] theorem readsSet_submittedUpdates {flight : Flight} {key : String}
    {position : Mavlink.GlobalPositionInt} :
    (c.record (.submittedUpdates flight key position)).ReadsSet ↔
      c.ReadsSet := by
  simp [ReadsSet, record, Entry.Defined]

end Client

namespace TelemetrySubmitter

variable {s s' : TelemetrySubmitter}

/-- No unset value was read. -/
def ReadsSet (s : TelemetrySubmitter) : Prop :=
  s.client.ReadsSet

instance : DecidablePred ReadsSet := fun _ =>
  inferInstanceAs (Decidable (Client.ReadsSet _))

/-! ## What each function needs -/

/-- What `request_start_flight_comms` needs. -/
def CommsReady (s : TelemetrySubmitter) : Prop :=
  s.encryptionKey.isSome ∨ s.startFlightCommsRequested ∨ s.authorization.isSome

/-- What `request_monitor_traffic` needs. -/
def MonitorReady (s : TelemetrySubmitter) : Prop :=
  s.trafficMonitor.isSome ∨ s.trafficMonitoringRequested ∨ s.authorization.isSome

/-- What a callback needs that reports a flight. -/
def FlightReady (s : TelemetrySubmitter) : Prop :=
  s.MonitorReady ∧ s.CommsReady

/-- What `request_submit_flight_plan` needs. -/
def SubmitReady (s : TelemetrySubmitter) : Prop :=
  if s.flight.isSome then s.FlightReady
  else s.submitFlightPlanRequested ∨ s.authorization.isSome

/-- A mission, if there is one, has a pilot, and is a ring with altitudes. -/
def MissionReady (s : TelemetrySubmitter) : Prop :=
  ∀ geometry ∈ s.missionGeometry,
    s.pilotId.isSome ∧ geometry.IsRingWithAltitudes

/-- What a vehicle delivers is never ready: it is a line string. -/
theorem missionReady_iff_none (hline : ∀ geometry ∈ s.missionGeometry,
    geometry.kind = .lineString) : s.MissionReady ↔ s.missionGeometry = none := by
  constructor
  · intro hready
    by_contra hmission
    obtain ⟨geometry, hgeometry⟩ := Option.ne_none_iff_exists'.mp hmission
    have hkind := (hready geometry hgeometry).2.1
    rw [hline geometry hgeometry] at hkind
    cases hkind
  · intro hnone geometry hgeometry
    rw [hnone] at hgeometry
    cases hgeometry

/-- What `request_create_flight_plan` needs. -/
def CreateReady (s : TelemetrySubmitter) : Prop :=
  if s.flightPlan.isSome then s.SubmitReady
  else s.CreationDue → s.authorization.isSome ∧ s.MissionReady

/-- What `request_end_active_flights` needs. -/
def EndReady (s : TelemetrySubmitter) : Prop :=
  if CleanedUp s.activeFlights then s.CreateReady
  else s.endActiveFlightsRequested ∨ s.authorization.isSome

/-- What `request_active_flights` needs. -/
def SearchReady (s : TelemetrySubmitter) : Prop :=
  s.activeFlights.isSome → s.EndReady

/-- What `request_pilot_id` needs. -/
def PilotReady (s : TelemetrySubmitter) : Prop :=
  s.pilotId.isSome → s.SearchReady

/-- What `request_authorization` needs. -/
def AuthorizationReady (s : TelemetrySubmitter) : Prop :=
  s.authorization.isSome → s.PilotReady

/-- What the callback of a request needs, with the value it stores. -/
def AnswerReady (s : TelemetrySubmitter) : Request → Reply → Prop
  | .authenticateWithPassword _, .authorization id
  | .authenticateAnonymously, .authorization id =>
      { s with authorization := some id }.PilotReady
  | .authenticated _, .pilot id => { s with pilotId := some id }.SearchReady
  | .search _, .flights flights =>
      { s with activeFlights := some flights }.EndReady
  | .endActiveFlight _ id, .ended =>
      CleanedUp (s.activeFlights.map (eraseFlight id)) → s.CreateReady
  | .createByPolygon _, .plan plan =>
      { s with flightPlan := some plan }.SubmitReady
  | .createFlightByPoint _, .flight _ => s.FlightReady
  | .submitFlightPlan _ _, .plan plan =>
      plan.flightId.isSome ∧ s.FlightReady
  | _, _ => True

/-- What the event needs: all values that its chain reads are set. -/
def Ready (s : TelemetrySubmitter) : Event → Prop
  | .activate => s.AuthorizationReady
  | .submit position =>
      s.state = .active → s.flight = none ∨ s.encryptionKey = none →
        { s with currentPosition := some position }.AuthorizationReady
  | .answer i reply =>
      ∀ ticket ∈ s.client.outstanding[i]?, s.AnswerReady ticket.request reply
  | .deactivate | .setMissionGeometry _ => True

/-! ## Each function needs exactly that -/

theorem requestStartFlightComms_readsSet (hflight : s.flight.isSome) :
    s.requestStartFlightComms.ReadsSet ↔ s.ReadsSet ∧ s.CommsReady := by
  rw [requestStartFlightComms, CommsReady]
  split
  next hkey => simp [hkey, ReadsSet, handleRequestStartFlightCommsFinished]
  next hkey =>
    split
    next hflag => simp [hflag]
    next hflag =>
      simp [hkey, hflag, hflight, ReadsSet, issueStartFlightComms, issue, access]

theorem requestMonitorTraffic_readsSet (hflight : s.flight.isSome) :
    s.requestMonitorTraffic.ReadsSet ↔ s.ReadsSet ∧ s.MonitorReady := by
  rw [requestMonitorTraffic, MonitorReady]
  split
  next hmonitor =>
    simp [hmonitor, ReadsSet, handleRequestMonitorTrafficFinished, record]
  next hmonitor =>
    split
    next hflag => simp [hflag]
    next hflag =>
      simp [hmonitor, hflag, hflight, ReadsSet, issueMonitorTraffic, issue, access]

theorem requestMonitorTraffic_commsReady :
    s.requestMonitorTraffic.CommsReady ↔ s.CommsReady := by
  rw [requestMonitorTraffic]
  repeat' split
  all_goals rfl

theorem handleRequestSubmitFlightPlanFinished_readsSet {flight : Flight} :
    (s.handleRequestSubmitFlightPlanFinished flight).ReadsSet ↔
      s.ReadsSet ∧ s.FlightReady := by
  have hstored : ({ s with flight := some flight }).flight.isSome := rfl
  rw [handleRequestSubmitFlightPlanFinished]
  rw [requestStartFlightComms_readsSet
      (by rw [requestMonitorTraffic_flight]; exact hstored),
    requestMonitorTraffic_readsSet hstored, requestMonitorTraffic_commsReady,
    and_assoc]
  rfl

theorem requestSubmitFlightPlan_readsSet (hplan : s.flightPlan.isSome) :
    s.requestSubmitFlightPlan.ReadsSet ↔ s.ReadsSet ∧ s.SubmitReady := by
  rw [requestSubmitFlightPlan, SubmitReady]
  split
  next hflight =>
    simp [hflight, handleRequestSubmitFlightPlanFinished_readsSet]
  next hflight =>
    split
    next hflag => simp [hflight, hflag]
    next hflag =>
      simp [hflight, hflag, hplan, ReadsSet, issueSubmitFlightPlan, issue, access]

theorem maxElement_isSome {coordinates : List Geometry.Coordinate} :
    (maxElement coordinates).isSome ↔ coordinates ≠ [] := by
  cases coordinates with
  | nil => simp [maxElement]
  | cons first rest => simp [maxElement]

theorem issueCreateFlightPlan_readsSet :
    s.issueCreateFlightPlan.ReadsSet ↔
      s.ReadsSet ∧ (s.currentPosition.isSome →
        s.authorization.isSome ∧ s.MissionReady) := by
  rw [issueCreateFlightPlan, MissionReady]
  dsimp only
  split
  next hposition => simp [hposition, ReadsSet]
  next hposition =>
    split
    next geometry hgeometry =>
      simp only [createByPolygon, ReadsSet, issue, access, Client.readsSet_issue,
        Client.readsSet_access, maxElement_isSome, hposition, hgeometry,
        Option.mem_some_iff, forall_eq', Option.isSome_some, true_imp_iff,
        Geometry.IsRingWithAltitudes, decide_eq_true_eq]
      tauto
    next hgeometry =>
      simp [createFlightByPoint, hposition, hgeometry, ReadsSet, issue, access]

theorem requestCreateFlightPlan_readsSet :
    s.requestCreateFlightPlan.ReadsSet ↔ s.ReadsSet ∧ s.CreateReady := by
  rw [requestCreateFlightPlan, CreateReady, CreationDue]
  split
  next plan hplan =>
    rw [if_pos (by rw [hplan]; rfl)]
    rw [handleRequestCreateFlightPlanFinished]
    rw [requestSubmitFlightPlan_readsSet rfl]
    rfl
  next hplan =>
    have hnone : ¬ s.flightPlan.isSome := by simp [hplan]
    rw [if_neg hnone]
    split
    next hflag => simp [hflag]
    next hflag => simp [hplan, hflag, issueCreateFlightPlan_readsSet]

theorem foldl_endActiveFlight_readsSet (flights : List Flight)
    (s : TelemetrySubmitter) :
    (flights.foldl endActiveFlight s).ReadsSet ↔
      s.ReadsSet ∧ (flights ≠ [] → s.authorization.isSome) := by
  induction flights generalizing s with
  | nil => simp
  | cons flight flights ih =>
      rw [List.foldl_cons, ih]
      simp [endActiveFlight, ReadsSet, issue, access]
      tauto

theorem requestEndActiveFlights_readsSet {flights : List Flight}
    (hflights : s.activeFlights = some flights) :
    s.requestEndActiveFlights.ReadsSet ↔ s.ReadsSet ∧ s.EndReady := by
  by_cases hclean : CleanedUp s.activeFlights
  · rw [requestEndActiveFlights_of_cleanedUp hclean,
      requestCreateFlightPlan_readsSet, EndReady, if_pos hclean]
  · have hnonempty : flights ≠ [] := by
      rintro rfl
      exact hclean (cleanedUp_iff.mpr hflights)
    rw [EndReady, if_neg hclean]
    rw [requestEndActiveFlights]
    simp only [hflights, Option.isSome_some, Option.getD_some, Bool.true_and,
      List.isEmpty_iff, hnonempty, if_false]
    split
    next hflag => simp [hflag]
    next hflag =>
      simp only [issueEndActiveFlights, hflights, foldl_endActiveFlight_readsSet]
      simp [hflag, hnonempty, ReadsSet, access]

theorem requestActiveFlights_readsSet :
    s.requestActiveFlights.ReadsSet ↔ s.ReadsSet ∧ s.SearchReady := by
  rw [requestActiveFlights, SearchReady]
  split
  next flights hflights =>
    have hstored : { s with activeFlights := some flights } = s := by
      rw [← hflights]
    rw [handleRequestActiveFlightsFinished]
    simp [requestEndActiveFlights_readsSet, hflights, hstored]
  next hflights =>
    split
    next => simp [hflights]
    next => simp [hflights, ReadsSet, issueActiveFlights, issue]

theorem requestPilotId_readsSet :
    s.requestPilotId.ReadsSet ↔ s.ReadsSet ∧ s.PilotReady := by
  rw [requestPilotId, PilotReady]
  split
  next pilotId hpilot =>
    have hstored : { s with pilotId := some pilotId } = s := by rw [← hpilot]
    rw [handleRequestPilotIdFinished]
    simp [hstored, hpilot, requestActiveFlights_readsSet]
  next hpilot =>
    split
    next => simp [hpilot]
    next =>
      rw [issuePilotId]
      dsimp only
      split
      · simp [hpilot, ReadsSet, issue]
      · simp [hpilot, ReadsSet]

theorem requestAuthorization_readsSet :
    s.requestAuthorization.ReadsSet ↔ s.ReadsSet ∧ s.AuthorizationReady := by
  rw [requestAuthorization, AuthorizationReady]
  split
  next authorization hvalue =>
    have hstored : { s with authorization := some authorization } = s := by
      rw [← hvalue]
    rw [handleRequestAuthorizationFinished]
    simp [hstored, hvalue, requestPilotId_readsSet]
  next hvalue =>
    split
    next => simp [hvalue]
    next =>
      rw [issueAuthorization]
      dsimp only
      split
      · simp [hvalue, ReadsSet, issue]
      · simp [hvalue, ReadsSet, issue]

/-! ## Callbacks and steps -/

/-- A callback reads only set values exactly when it finds what it needs. -/
theorem callback_readsSet {request : Request} {reply : Reply}
    (hknown : request.kind = .endActiveFlight → s.activeFlights.isSome)
    (hcallback : s.callback request reply = some s') :
    s'.ReadsSet ↔ s.ReadsSet ∧ s.AnswerReady request reply := by
  obtain ⟨s₁, habsorbs, -⟩ := callback_cases hknown hcallback
  cases habsorbs with
  | authorization hkind =>
      cases request with
      | authenticateWithPassword | authenticateAnonymously =>
          cases hcallback
          exact requestPilotId_readsSet
      | _ => cases hkind
  | pilotId =>
      cases hcallback
      exact requestActiveFlights_readsSet
  | activeFlights =>
      cases hcallback
      exact requestEndActiveFlights_readsSet rfl
  | endActiveFlight =>
      cases hcallback
      rw [handleRequestEndActiveFlightFinished_eq _ (hknown rfl)]
      dsimp only [AnswerReady]
      split
      next hclean =>
        rw [requestCreateFlightPlan_readsSet]
        exact and_congr_right fun _ => ⟨fun hready _ => hready,
          fun hready => hready hclean⟩
      next hrest =>
        exact (and_iff_left fun hclean => absurd hclean hrest).symm
  | flightPlan =>
      cases hcallback
      exact requestSubmitFlightPlan_readsSet rfl
  | flightByPoint =>
      cases hcallback
      exact handleRequestSubmitFlightPlanFinished_readsSet
  | submitted =>
      -- The flight is made from the plan, whose `flight_id` is read first.
      cases hcallback
      rw [handleRequestSubmitFlightPlanFinished_readsSet, ReadsSet, access,
        Client.readsSet_access, and_assoc]
      rfl
  | trafficMonitor =>
      cases hcallback
      simp [AnswerReady, ReadsSet, handleRequestMonitorTrafficFinished, record]
  | encryptionKey =>
      cases hcallback
      simp [AnswerReady, ReadsSet, handleRequestStartFlightCommsFinished]
  | endFlight =>
      cases reply <;> cases hcallback <;> simp [AnswerReady]
  | authorizationFailed hkind | creationFailed hkind =>
      cases request <;> cases hkind <;> cases hcallback <;>
        simp [AnswerReady, ReadsSet]
  | _ =>
      cases hcallback
      simp [AnswerReady, ReadsSet]

theorem deactivate_readsSet : s.deactivate.ReadsSet ↔ s.ReadsSet := by
  rw [deactivate]
  split
  next => rfl
  next =>
    dsimp only
    split
    · simp [ReadsSet, reset, issue]
    · simp [ReadsSet, reset]

theorem submit_readsSet {position : Mavlink.GlobalPositionInt} :
    (s.submit position).ReadsSet ↔ s.ReadsSet ∧ s.Ready (.submit position) := by
  rw [submit]
  dsimp only [Ready]
  split
  next hstate => simp [hstate, ReadsSet]
  next hstate =>
    split
    next authorization flight key hauthorization hflight hkey =>
      simp [hflight, hkey, ReadsSet, record]
    next hmissing =>
      rw [requestAuthorization_readsSet]
      refine and_congr_right fun _ => ⟨fun hready _ _ => hready, fun hready => ?_⟩
      by_cases hboth : s.flight = none ∨ s.encryptionKey = none
      · exact hready hstate hboth
      · obtain ⟨hflight, hkey⟩ := not_or.mp hboth
        obtain ⟨flight, hf⟩ := Option.ne_none_iff_exists'.mp hflight
        obtain ⟨key, hk⟩ := Option.ne_none_iff_exists'.mp hkey
        intro hauthorization
        obtain ⟨authorization, ha⟩ := Option.isSome_iff_exists.mp hauthorization
        exact (hmissing authorization flight key ha hf hk).elim

theorem answered_answerReady {i : ℕ} {ticket : Ticket} {reply : Reply}
    {request : Request} {reply' : Reply} :
    (s.answered i ticket reply).AnswerReady request reply' ↔
      s.AnswerReady request reply' := by
  unfold AnswerReady
  split <;> rfl

/-- A step reads only set values exactly when it finds what it needs. -/
theorem step_readsSet {event : Event} (hknown : s.EndsKnown)
    (h : s.step event = some s') : s'.ReadsSet ↔ s.ReadsSet ∧ s.Ready event := by
  cases event with
  | activate =>
      cases h
      have hentered : s.enterActive.ReadsSet ↔ s.ReadsSet := by
        simp only [ReadsSet, Client.ReadsSet, enterActive_history]
      rw [activate, requestAuthorization_readsSet, hentered]
      rfl
  | deactivate =>
      cases h
      simp [deactivate_readsSet, Ready]
  | submit position =>
      cases h
      exact submit_readsSet
  | setMissionGeometry geometry =>
      cases h
      simp [setMissionGeometry, Ready, ReadsSet]
  | answer i reply =>
      simp only [step] at h
      split at h
      next ticket hticket =>
        have hkind := hknown ticket (List.mem_of_getElem? hticket)
        have hanswered : (s.answered i ticket reply).ReadsSet ↔ s.ReadsSet := by
          simp [ReadsSet, Client.ReadsSet, answered, Client.answer, Entry.Defined]
        rw [callback_readsSet (s := s.answered i ticket reply) hkind h, hanswered]
        simp only [Ready, hticket, Option.mem_some_iff, forall_eq',
          answered_answerReady]
      next => cases h

/-! ## Runs -/

theorem answerReady_of_disabled {request : Request} {reply : Reply}
    (h : s'.callback request reply = none) : s.AnswerReady request reply := by
  unfold AnswerReady
  split
  all_goals trivial

theorem ready_of_disabled {event : Event} (h : s.step event = none) :
    s.Ready event := by
  cases event with
  | answer i reply =>
      intro ticket hticket
      simp only [step, Option.mem_def.mp hticket] at h
      exact answerReady_of_disabled h
  | _ => cases h

/-- A run reads only set values exactly when each of its events finds what it
needs. -/
theorem readsSet_along_iff_ready (credentials : Credentials)
    (aircraftId : String) (events : List Event) :
    Machine.Along step ReadsSet (create credentials aircraftId) events ↔
      Machine.Meets step Ready (create credentials aircraftId) events := by
  apply Machine.along_iff_meets fun s => s.EndsKnown
  · intro s event s' hknown _ hnext _
    exact (step_cases hknown hnext).endsKnown hknown
  · intro s event s' hknown hset hnext
    rw [step_readsSet hknown hnext]
    exact and_iff_right hset
  · exact fun s event => ready_of_disabled
  · exact fun _ hticket => nomatch hticket
  · exact fun _ hentry => nomatch hentry

/-- The line string that a vehicle makes of a mission of one waypoint. -/
def missionLine : Geometry :=
  .lineString [⟨.finite 47, .finite 8, some (.finite 400), none⟩]

/-- The mission is known before the flight is created. -/
def missionRun : List Event :=
  [.setMissionGeometry missionLine, .submit ⟨350000000, -780000000, 0, 0⟩,
    .activate, .answer 0 (.authorization "token"), .answer 0 (.pilot "pilot"),
    .answer 0 (.flights [])]

/-- The vehicle delivers the line string, and its ring is read. -/
theorem polygon_of_lineString_read :
    (∃ v notifications, (({ systemId := 1 } : Mavlink.Vehicle).update
        ⟨1, .missionCount 1⟩ = some (v, notifications)) ∧
      ∃ v', v.update ⟨1, .missionItem ⟨0, 16, .finite 47, .finite 8, .finite 400⟩⟩ =
        some (v', [.missionReceived missionLine])) ∧
    ∃ s, Machine.run step (create {} "aircraft") missionRun = some s ∧
      ¬ s.ReadsSet :=
  ⟨⟨_, _, rfl, _, rfl⟩, Machine.exists_run (by decide)⟩

end TelemetrySubmitter
end Airmap.Monitor
