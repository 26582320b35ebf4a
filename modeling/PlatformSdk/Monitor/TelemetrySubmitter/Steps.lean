import PlatformSdk.Machine.Run
import PlatformSdk.Monitor.TelemetrySubmitter.Chain

/-!
# What one event can do to a submitter

A callback first stores what it was given (`Absorbs`) and then starts a chain.
`Step` lists what each event can do in these terms; `step_cases` is the only
place where the step function itself is taken apart.
-/

namespace Airmap.Monitor.TelemetrySubmitter

variable {s s' : TelemetrySubmitter}

/-- What the callback of a request stores before it goes on to a chain. -/
inductive Absorbs (s : TelemetrySubmitter) :
    Request → Reply → TelemetrySubmitter → Prop where
  | authorization {request : Request} {id : String}
      (hkind : request.kind = .authentication) :
      Absorbs s request (.authorization id) { s with authorization := some id }
  | authorizationFailed {request : Request}
      (hkind : request.kind = .authentication) :
      Absorbs s request .failure { s with authorizationRequested := false }
  | pilotId {authorization id : String} :
      Absorbs s (.authenticated authorization) (.pilot id)
        { s with pilotId := some id }
  | pilotIdFailed {authorization : String} :
      Absorbs s (.authenticated authorization) .failure
        { s with pilotIdRequested := false }
  | activeFlights {pilotId : Option String} {flights : List Flight} :
      Absorbs s (.search pilotId) (.flights flights)
        { s with activeFlights := some flights }
  | activeFlightsFailed {pilotId : Option String} :
      Absorbs s (.search pilotId) .failure
        { s with activeFlightsRequested := false }
  | endActiveFlight {authorization id : String} :
      Absorbs s (.endActiveFlight authorization id) .ended
        { s with activeFlights := s.activeFlights.map (eraseFlight id) }
  | endActiveFlightFailed {authorization id : String} :
      Absorbs s (.endActiveFlight authorization id) .failure
        { s with endActiveFlightsRequested := false }
  | flightPlan {parameters : CreateByPolygon} {plan : FlightPlan} :
      Absorbs s (.createByPolygon parameters) (.plan plan)
        { s with flightPlan := some plan }
  | flightByPoint {parameters : CreateFlightByPoint} {flight : Flight} :
      Absorbs s (.createFlightByPoint parameters) (.flight flight)
        { s with flight := some flight }
  | creationFailed {request : Request} (hkind : request.kind = .creation) :
      Absorbs s request .failure { s with createFlightPlanRequested := false }
  | submitted {authorization id : String} {plan : FlightPlan} :
      Absorbs s (.submitFlightPlan authorization id) (.plan plan)
        { s.access .planFlightId plan.flightId.isSome with
          flight := some (flightOfPlan plan) }
  | submissionFailed {authorization id : String} :
      Absorbs s (.submitFlightPlan authorization id) .failure
        { s with submitFlightPlanRequested := false }
  | trafficMonitor {flightId authorization : String} {monitor : ℕ} :
      Absorbs s (.monitor flightId authorization) (.monitor monitor)
        (s.handleRequestMonitorTrafficFinished monitor)
  | monitoringFailed {flightId authorization : String} :
      Absorbs s (.monitor flightId authorization) .failure
        { s with trafficMonitoringRequested := false }
  | encryptionKey {authorization id key : String} :
      Absorbs s (.startFlightCommunications authorization id) (.key key)
        { s with encryptionKey := some key }
  | communicationsFailed {authorization id : String} :
      Absorbs s (.startFlightCommunications authorization id) .failure
        { s with startFlightCommsRequested := false }
  | endFlight {authorization id : String} {reply : Reply} :
      Absorbs s (.endFlight authorization id) reply s

/-- The flight that a successful creation or submission reports. -/
def reportedFlight : Request → Reply → Option Flight
  | .createFlightByPoint _, .flight flight => some flight
  | .submitFlightPlan _ _, .plan plan => some (flightOfPlan plan)
  | _, _ => none

/-- A callback stores something and then runs down a chain. -/
theorem callback_cases {request : Request} {reply : Reply}
    (hknown : request.kind = .endActiveFlight → s.activeFlights.isSome)
    (h : s.callback request reply = some s') :
    ∃ s₁, Absorbs s request reply s₁ ∧ Chain s₁ s' := by
  unfold callback at h
  split at h
  · cases h
    exact ⟨_, .authorization rfl, handleRequestAuthorizationFinished_chain _ _⟩
  · cases h
    exact ⟨_, .authorization rfl, handleRequestAuthorizationFinished_chain _ _⟩
  · cases h
    exact ⟨_, .authorizationFailed rfl, .refl⟩
  · cases h
    exact ⟨_, .authorizationFailed rfl, .refl⟩
  · cases h
    exact ⟨_, .pilotId, handleRequestPilotIdFinished_chain _ _⟩
  · cases h
    exact ⟨_, .pilotIdFailed, .refl⟩
  · cases h
    exact ⟨_, .activeFlights, handleRequestActiveFlightsFinished_chain _ _⟩
  · cases h
    exact ⟨_, .activeFlightsFailed, .refl⟩
  · cases h
    exact ⟨_, .endActiveFlight,
      handleRequestEndActiveFlightFinished_chain _ (hknown rfl)⟩
  · cases h
    exact ⟨_, .endActiveFlightFailed, .refl⟩
  · cases h
    exact ⟨_, .flightPlan, handleRequestCreateFlightPlanFinished_chain _ _⟩
  · cases h
    exact ⟨_, .flightByPoint, handleRequestSubmitFlightPlanFinished_chain _ _⟩
  · cases h
    exact ⟨_, .creationFailed rfl, .refl⟩
  · cases h
    exact ⟨_, .creationFailed rfl, .refl⟩
  · cases h
    exact ⟨_, .submitted, handleRequestSubmitFlightPlanFinished_chain _ _⟩
  · cases h
    exact ⟨_, .submissionFailed, .refl⟩
  · cases h
    exact ⟨_, .trafficMonitor, .refl⟩
  · cases h
    exact ⟨_, .monitoringFailed, .refl⟩
  · cases h
    exact ⟨_, .encryptionKey, .refl⟩
  · cases h
    exact ⟨_, .communicationsFailed, .refl⟩
  · cases h
    exact ⟨_, .endFlight, .refl⟩
  · cases h
    exact ⟨_, .endFlight, .refl⟩
  · cases h

/-- What an event does to a submitter, chain by chain. -/
inductive Step (s : TelemetrySubmitter) : Event → TelemetrySubmitter → Prop where
  | activate (hchain : Chain s.enterActive s.activate) :
      Step s .activate s.activate
  | deactivateInactive (hstate : s.state = .inactive) : Step s .deactivate s
  | deactivateEnding {authorization : String} {flight : Flight}
      (hstate : s.state = .active)
      (hauthorization : s.authorization = some authorization)
      (hflight : s.flight = some flight) :
      Step s .deactivate
        ({ s with state := .inactive }.issue
          (.endFlight authorization flight.id)).reset
  | deactivate (hstate : s.state = .active)
      (hnothing : s.authorization = none ∨ s.flight = none) :
      Step s .deactivate { s with state := .inactive }.reset
  | submitInactive {position : Mavlink.GlobalPositionInt}
      (hstate : s.state = .inactive) :
      Step s (.submit position) { s with currentPosition := some position }
  | submitUpdates {position : Mavlink.GlobalPositionInt}
      {authorization : String} {flight : Flight} {key : String}
      (hstate : s.state = .active)
      (hauthorization : s.authorization = some authorization)
      (hflight : s.flight = some flight)
      (hkey : s.encryptionKey = some key) :
      Step s (.submit position)
        ({ s with currentPosition := some position }.record
          (.submittedUpdates flight key position))
  | submitRequesting {position : Mavlink.GlobalPositionInt}
      {s' : TelemetrySubmitter} (hstate : s.state = .active)
      (hmissing : s.authorization = none ∨ s.flight = none ∨
        s.encryptionKey = none)
      (hchain : Chain { s with currentPosition := some position } s') :
      Step s (.submit position) s'
  | setMissionGeometry {geometry : Geometry} :
      Step s (.setMissionGeometry geometry)
        { s with missionGeometry := some geometry }
  | answer {i : ℕ} {ticket : Ticket} {reply : Reply}
      {s₁ s' : TelemetrySubmitter}
      (hticket : s.client.outstanding[i]? = some ticket)
      (habsorbs : Absorbs (s.answered i ticket reply) ticket.request reply s₁)
      (hchain : Chain s₁ s')
      (hcallback :
        (s.answered i ticket reply).callback ticket.request reply = some s') :
      Step s (.answer i reply) s'

theorem submit_cases (position : Mavlink.GlobalPositionInt)
    (s : TelemetrySubmitter) : Step s (.submit position) (s.submit position) := by
  rw [submit]
  dsimp only
  split
  next hstate => exact .submitInactive hstate
  next hstate =>
    split
    next authorization flight key hauthorization hflight hkey =>
      exact .submitUpdates hstate hauthorization hflight hkey
    next hmissing =>
      refine .submitRequesting hstate ?_ (requestAuthorization_chain _)
      by_contra hall
      simp only [not_or] at hall
      obtain ⟨a, ha⟩ := Option.ne_none_iff_exists'.mp hall.1
      obtain ⟨f, hf⟩ := Option.ne_none_iff_exists'.mp hall.2.1
      obtain ⟨k, hk⟩ := Option.ne_none_iff_exists'.mp hall.2.2
      exact hmissing a f k ha hf hk

theorem deactivate_cases (s : TelemetrySubmitter) :
    Step s .deactivate s.deactivate := by
  rw [deactivate]
  split
  next hstate => exact .deactivateInactive hstate
  next hstate =>
    dsimp only
    split
    next authorization flight hauthorization hflight =>
      exact .deactivateEnding hstate hauthorization hflight
    next hmissing =>
      refine .deactivate hstate ?_
      by_contra hall
      simp only [not_or] at hall
      obtain ⟨a, ha⟩ := Option.ne_none_iff_exists'.mp hall.1
      obtain ⟨f, hf⟩ := Option.ne_none_iff_exists'.mp hall.2
      exact hmissing a f ha hf

/-- A clean-up request is outstanding only when the flights to end are known. -/
def EndsKnown (s : TelemetrySubmitter) : Prop :=
  ∀ ticket ∈ s.client.outstanding,
    ticket.request.kind = .endActiveFlight → s.activeFlights.isSome

theorem step_cases {event : Event} (hknown : s.EndsKnown)
    (h : s.step event = some s') : Step s event s' := by
  cases event with
  | activate =>
      cases h
      exact .activate (requestAuthorization_chain _)
  | deactivate =>
      cases h
      exact deactivate_cases s
  | submit position =>
      cases h
      exact submit_cases position s
  | setMissionGeometry geometry =>
      cases h
      exact .setMissionGeometry
  | answer i reply =>
      simp only [step] at h
      split at h
      next ticket hticket =>
        have hmem := List.mem_of_getElem? hticket
        obtain ⟨s₁, habsorbs, hchain⟩ :=
          callback_cases (s := s.answered i ticket reply) (hknown ticket hmem) h
        exact .answer hticket habsorbs hchain h
      next => cases h

/-- Only a reported flight changes the stored one. -/
theorem Absorbs.flight_cases {request : Request} {reply : Reply}
    (h : Absorbs s request reply s') :
    (reportedFlight request reply = none ∧ s'.flight = s.flight) ∨
      ∃ flight, reportedFlight request reply = some flight ∧
        s'.flight = some flight := by
  cases h with
  | flightByPoint => exact Or.inr ⟨_, rfl, rfl⟩
  | submitted => exact Or.inr ⟨_, rfl, rfl⟩
  | authorization | authorizationFailed | creationFailed =>
      refine Or.inl ⟨?_, rfl⟩
      cases request <;> rfl
  | _ => exact Or.inl ⟨rfl, rfl⟩

/-- A reply that reports a flight is one that the request can have. -/
theorem callback_isSome_of_reportedFlight {request : Request} {reply : Reply}
    {flight : Flight} (h : reportedFlight request reply = some flight) :
    (s.callback request reply).isSome := by
  unfold reportedFlight at h
  split at h
  · rfl
  · rfl
  · cases h

/-! ## Histories only grow -/

theorem enterActive_history (s : TelemetrySubmitter) :
    s.enterActive.client.history = s.client.history := by
  unfold enterActive Client.activate
  split <;> rfl

/-- The entries that a callback itself makes. -/
def Entry.isNote : Entry → Prop
  | .subscribed _ => True
  | .undefined what => what = .planFlightId
  | _ => False

theorem Absorbs.history {request : Request} {reply : Reply}
    (h : Absorbs s request reply s') :
    Machine.GrowsBy Entry.isNote s.client.history s'.client.history := by
  cases h with
  | submitted =>
      simp only [TelemetrySubmitter.access, Client.access]
      split
      · exact .refl _
      · exact (Machine.GrowsBy.refl _).cons rfl
  | trafficMonitor => exact (Machine.GrowsBy.refl _).cons trivial
  | _ => exact .refl _

/-- Neither does a callback before its chain. -/
theorem Absorbs.own {request : Request} {reply : Reply}
    (h : Absorbs s request reply s') :
    Machine.GrowsBy Entry.IsOwn s.client.history s'.client.history := by
  refine h.history.mono fun entry hnote => ?_
  cases entry with
  | answered | submittedUpdates => exact hnote
  | _ => trivial

theorem Absorbs.history_subset {i : ℕ} {ticket : Ticket} {reply : Reply}
    (h : Absorbs (s.answered i ticket reply) ticket.request reply s') :
    s.client.history ⊆ s'.client.history := fun _ hentry =>
  h.history.subset (List.mem_cons_of_mem _ hentry)

theorem Absorbs.answered_mem {i : ℕ} {ticket : Ticket} {reply : Reply}
    (h : Absorbs (s.answered i ticket reply) ticket.request reply s') :
    .answered ticket reply ∈ s'.client.history :=
  h.history.subset List.mem_cons_self

theorem Absorbs.state {request : Request} {reply : Reply}
    (h : Absorbs s request reply s') : s'.state = s.state := by
  cases h with
  | _ => rfl

theorem Absorbs.outstanding {request : Request} {reply : Reply}
    (h : Absorbs s request reply s') :
    s'.client.outstanding = s.client.outstanding := by
  cases h with
  | submitted =>
      simp only [TelemetrySubmitter.access, Client.access]
      split <;> rfl
  | _ => rfl

/-! ## Clean-up requests know their flights -/

theorem Extends.endsKnown (h : Extends s s') (hknown : s.EndsKnown) :
    s'.EndsKnown := by
  obtain ⟨tickets, htickets, hissued⟩ := h.outstanding
  have hflights : s'.activeFlights = s.activeFlights :=
    congrArg Stored.activeFlights h.stored
  intro ticket hticket hkind
  rw [htickets, List.mem_append] at hticket
  rw [hflights]
  rcases hticket with hold | hnew
  · exact hknown ticket hold hkind
  · have hdue := (hissued ticket hnew).2.2
    rw [hkind] at hdue
    obtain ⟨first, rest, hsome⟩ := hdue
    exact Option.isSome_of_mem hsome

theorem Absorbs.endsKnown {request : Request} {reply : Reply}
    (h : Absorbs s request reply s') (hknown : s.EndsKnown) :
    s'.EndsKnown := by
  have hkeep : s.activeFlights.isSome → s'.activeFlights.isSome := by
    cases h with
    | activeFlights => simp
    | endActiveFlight => simp
    | _ => exact id
  intro ticket hticket hkind
  rw [h.outstanding] at hticket
  exact hkeep (hknown ticket hticket hkind)

theorem endsKnown_of_sublist
    (houtstanding : s'.client.outstanding.Sublist s.client.outstanding)
    (hflights : s'.activeFlights = s.activeFlights) (hknown : s.EndsKnown) :
    s'.EndsKnown := by
  intro ticket hticket hkind
  rw [hflights]
  exact hknown ticket (houtstanding.subset hticket) hkind

theorem Step.endsKnown {event : Event} (h : Step s event s')
    (hknown : s.EndsKnown) : s'.EndsKnown := by
  cases h with
  | activate hchain =>
      apply (chain_extends hchain).endsKnown
      refine endsKnown_of_sublist (s := s) ?_ rfl hknown
      cases hstate : s.state <;> simp [enterActive, Client.activate, hstate]
  | deactivateInactive => exact hknown
  | deactivateEnding =>
      intro ticket hticket hkind
      rcases List.mem_append.mp hticket with hold | hnew
      · exact hknown ticket hold hkind
      · simp only [List.mem_singleton] at hnew
        subst hnew
        cases hkind
  | deactivate => exact hknown
  | submitInactive => exact hknown
  | submitUpdates => exact hknown
  | submitRequesting hstate hmissing hchain =>
      exact (chain_extends hchain).endsKnown hknown
  | setMissionGeometry => exact hknown
  | answer hticket habsorbs hchain =>
      apply (chain_extends hchain).endsKnown
      apply habsorbs.endsKnown
      exact endsKnown_of_sublist (s := s) (List.eraseIdx_sublist _ _) rfl hknown

/-! ## The state of the submitter -/

/-- The state that an event leaves the submitter in. -/
def stateAfter (state : State) : Event → State
  | .activate => .active
  | .deactivate => .inactive
  | .submit _ | .setMissionGeometry _ | .answer _ _ => state

theorem Step.state {event : Event} (h : Step s event s') :
    s'.state = stateAfter s.state event := by
  have hkeeps : ∀ {a b : TelemetrySubmitter}, Chain a b → b.state = a.state :=
    fun hchain => congrArg Stored.state (chain_extends hchain).stored
  cases h with
  | activate hchain => exact hkeeps hchain
  | deactivateInactive hstate => exact hstate
  | deactivateEnding | deactivate => rfl
  | submitInactive | submitUpdates | setMissionGeometry => rfl
  | submitRequesting hstate hmissing hchain =>
      have hsame := hkeeps hchain
      exact hsame
  | answer hticket habsorbs hchain =>
      exact (hkeeps hchain).trans habsorbs.state

theorem activate_state (hknown : s.EndsKnown) : s.activate.state = .active := by
  have hstep : s.step .activate = some s.activate := rfl
  exact (step_cases hknown hstep).state

theorem deactivate_state (hknown : s.EndsKnown) :
    s.deactivate.state = .inactive := by
  have hstep : s.step .deactivate = some s.deactivate := rfl
  exact (step_cases hknown hstep).state

/-! ## Conditions on answers, and invariants of runs -/

/-- `P` holds of the ticket and the reply when the event is an answer. -/
def OnAnswer (P : Ticket → Reply → Prop) (s : TelemetrySubmitter) : Event → Prop
  | .answer i reply => ∀ ticket ∈ s.client.outstanding[i]?, P ticket reply
  | _ => True

instance OnAnswer.decide {P : Ticket → Reply → Prop}
    [∀ ticket reply, Decidable (P ticket reply)] (s : TelemetrySubmitter) :
    ∀ event, Decidable (s.OnAnswer P event)
  | .answer _ _ => inferInstanceAs (Decidable (∀ _ ∈ _, _))
  | .activate | .deactivate | .submit _ | .setMissionGeometry _ =>
      inferInstanceAs (Decidable True)

/-- An invariant of all steps that meet a condition, in terms of `Step`. -/
theorem invariant_of_step (Inv : TelemetrySubmitter → Prop)
    {C : TelemetrySubmitter → Event → Prop}
    (hstep : ∀ s event s', Inv s → C s event → Step s event s' → Inv s')
    {credentials : Credentials} {aircraftId : String}
    (hinit : Inv (create credentials aircraftId)) {events : List Event}
    (hmeets : Machine.Meets step C (create credentials aircraftId) events)
    (hrun : Machine.run step (create credentials aircraftId) events = some s) :
    Inv s := by
  have hboth := Machine.invariant_run (fun s => s.EndsKnown ∧ Inv s) (C := C)
    (fun s event s' ⟨hknown, hinv⟩ hC hnext =>
      have hcases := step_cases hknown hnext
      ⟨hcases.endsKnown hknown, hstep s event s' hinv hC hcases⟩)
    ⟨by simp [EndsKnown, create], hinit⟩ hmeets hrun
  exact hboth.2

end Airmap.Monitor.TelemetrySubmitter
