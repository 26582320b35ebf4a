import PlatformSdk.Monitor.TelemetrySubmitter.Recovery

/-!
# Progress of an active submitter

When nothing is outstanding, a flag that is up stands for a stored value, and
the chain of the next `submit` runs past it to a request that it can issue.
-/

namespace Airmap.Monitor.TelemetrySubmitter

variable {s s' : TelemetrySubmitter}

/-- When an active submitter waits for nothing, the next `submit` sends
telemetry of the current flight or issues a request. -/
def Progresses (s : TelemetrySubmitter) : Prop :=
  s.state = .active → s.client.outstanding = [] → ∀ position,
    (∃ flight ∈ s.flight, ∃ key, (s.submit position).client.history =
      .submittedUpdates flight key position :: s.client.history) ∨
    (s.submit position).client.outstanding ≠ []

/-- The submitter is active and waits for nothing, and a `submit` of this
position makes no entry. -/
def IsStuck (position : Mavlink.GlobalPositionInt) (s : TelemetrySubmitter) :
    Prop :=
  s.state = .active ∧ s.client.outstanding.isEmpty = true ∧
    (s.submit position).client.outstanding.isEmpty = true ∧
    (s.submit position).client.history.length = s.client.history.length

instance (position : Mavlink.GlobalPositionInt) :
    DecidablePred (IsStuck position) :=
  fun _ => inferInstanceAs (Decidable (_ ∧ _ ∧ _ ∧ _))

theorem IsStuck.not_progresses {position : Mavlink.GlobalPositionInt}
    (h : s.IsStuck position) : ¬ s.Progresses := by
  obtain ⟨hstate, hempty, hnothing, hlength⟩ := h
  intro hprogresses
  rcases hprogresses hstate (List.isEmpty_iff.mp hempty) position with
    ⟨flight, -, key, hhistory⟩ | hissued
  · rw [hhistory, List.length_cons] at hlength
    omega
  · exact hissued (List.isEmpty_iff.mp hnothing)

/-! ## A settled submitter -/

/-- Each raised flag stands for a value. -/
structure Settled (s : TelemetrySubmitter) : Prop where
  has : ∀ kind, Request.Kind.IsSingle kind → s.requested kind = true →
    s.stored.Has kind
  ended : s.endActiveFlightsRequested = true → CleanedUp s.activeFlights
  communicates : s.Communicates

/-- A flag whose value is missing is down. -/
theorem Settled.low (h : s.Settled) (kind : Request.Kind)
    (hkind : Request.Kind.IsSingle kind) (hmissing : ¬ s.stored.Has kind) :
    s.requested kind = false := by
  by_contra hraised
  exact hmissing (h.has kind hkind (Bool.not_eq_false _ ▸ hraised))

theorem issue_ne_nil (s : TelemetrySubmitter) (request : Request) :
    (s.issue request).client.outstanding ≠ [] := by
  simp [issue, Client.issue]

theorem requestStartFlightComms_ne_nil (hkey : s.encryptionKey = none)
    (hflag : s.startFlightCommsRequested = false) :
    s.requestStartFlightComms.client.outstanding ≠ [] := by
  have hissue : s.requestStartFlightComms = s.issueStartFlightComms := by
    simp [requestStartFlightComms, hkey, hflag]
  rw [hissue]
  exact issue_ne_nil _ _

/-- A stored flight without a key asks for one. -/
theorem handleRequestSubmitFlightPlanFinished_ne_nil {flight : Flight}
    (hkey : s.encryptionKey = none)
    (hflag : s.startFlightCommsRequested = false) :
    (s.handleRequestSubmitFlightPlanFinished flight).client.outstanding ≠ [] := by
  have hmonitor := chain_extends
    (requestMonitorTraffic_chain (s := { s with flight := some flight }) rfl)
  apply requestStartFlightComms_ne_nil
  · exact (congrArg Stored.encryptionKey hmonitor.stored).trans hkey
  · rw [requestMonitorTraffic_startFlightCommsRequested]
    exact hflag

/-- A stored plan without a flight is submitted. -/
theorem requestSubmitFlightPlan_ne_nil (h : s.Settled)
    (hkey : s.flight.isSome → s.encryptionKey = none) :
    s.requestSubmitFlightPlan.client.outstanding ≠ [] := by
  rw [requestSubmitFlightPlan]
  split
  next flight hflight =>
    have hnone := hkey (by rw [hflight]; rfl)
    have hflag := h.low .communications (by decide)
      (by simp [Stored.Has, stored, hnone])
    exact handleRequestSubmitFlightPlanFinished_ne_nil hnone hflag
  next hflight =>
    have hflag := h.low .submission (by decide)
      (by simp [Stored.Has, stored, hflight])
    rw [show s.submitFlightPlanRequested = false from hflag]
    exact issue_ne_nil _ _

/-- A creation without a plan is issued, since the flag is only up once a
flight is stored, whose communications are then under way. -/
theorem requestCreateFlightPlan_ne_nil (h : s.Settled)
    (hposition : s.currentPosition.isSome)
    (hkey : s.flight.isSome → s.encryptionKey = none) :
    s.requestCreateFlightPlan.client.outstanding ≠ [] := by
  rw [requestCreateFlightPlan]
  split
  next plan hplan =>
    have hsame : { s with flightPlan := some plan } = s := by rw [← hplan]
    rw [handleRequestCreateFlightPlanFinished, hsame]
    exact requestSubmitFlightPlan_ne_nil h hkey
  next hplan =>
    split
    next hraised =>
      exfalso
      have hflight : s.flight.isSome := by
        have hhas := h.has .creation (by decide) hraised
        simpa [Stored.Has, stored, hplan] using hhas
      have hnone := hkey hflight
      have hcomms : s.startFlightCommsRequested = true := by
        simpa [hnone, hplan] using h.communicates hflight
      have hhas := h.has .communications (by decide) hcomms
      simp [Stored.Has, stored, hnone] at hhas
    next =>
      obtain ⟨position, hposition⟩ := Option.isSome_iff_exists.mp hposition
      simp only [issueCreateFlightPlan, hposition]
      split
      · exact issue_ne_nil _ _
      · exact issue_ne_nil _ _

/-- Flights that are left to be ended are ended again. -/
theorem requestEndActiveFlights_ne_nil (h : s.Settled)
    (hknown : s.activeFlights.isSome) (hposition : s.currentPosition.isSome)
    (hkey : s.flight.isSome → s.encryptionKey = none) :
    s.requestEndActiveFlights.client.outstanding ≠ [] := by
  by_cases hcleaned : CleanedUp s.activeFlights
  · rw [requestEndActiveFlights_of_cleanedUp hcleaned]
    exact requestCreateFlightPlan_ne_nil h hposition hkey
  · have hflag : s.endActiveFlightsRequested = false := by
      by_contra hraised
      exact hcleaned (h.ended (by simpa using hraised))
    obtain ⟨flights, hflights⟩ := Option.isSome_iff_exists.mp hknown
    have hleft : flights ≠ [] := by
      rintro rfl
      exact hcleaned (cleanedUp_iff.mpr hflights)
    have hissue : s.requestEndActiveFlights = s.issueEndActiveFlights := by
      simp [requestEndActiveFlights, hflights, hflag, hleft]
    rw [hissue, issueEndActiveFlights_outstanding, hflights]
    simp [hleft]

theorem requestActiveFlights_ne_nil (h : s.Settled)
    (hposition : s.currentPosition.isSome)
    (hkey : s.flight.isSome → s.encryptionKey = none) :
    s.requestActiveFlights.client.outstanding ≠ [] := by
  rw [requestActiveFlights]
  split
  next flights hvalue =>
    have hsame : { s with activeFlights := some flights } = s := by rw [← hvalue]
    rw [handleRequestActiveFlightsFinished, hsame]
    exact requestEndActiveFlights_ne_nil h (by rw [hvalue]; rfl) hposition hkey
  next hvalue =>
    have hflag := h.low .search (by decide)
      (by simp [Stored.Has, stored, hvalue])
    rw [show s.activeFlightsRequested = false from hflag]
    exact issue_ne_nil _ _

theorem requestPilotId_ne_nil (h : s.Settled)
    (hauthorization : s.authorization.isSome)
    (hposition : s.currentPosition.isSome)
    (hkey : s.flight.isSome → s.encryptionKey = none) :
    s.requestPilotId.client.outstanding ≠ [] := by
  rw [requestPilotId]
  split
  next pilotId hvalue =>
    have hsame : { s with pilotId := some pilotId } = s := by rw [← hvalue]
    rw [handleRequestPilotIdFinished, hsame]
    exact requestActiveFlights_ne_nil h hposition hkey
  next hvalue =>
    have hflag := h.low .pilot (by decide)
      (by simp [Stored.Has, stored, hvalue])
    obtain ⟨authorization, hknown⟩ := Option.isSome_iff_exists.mp hauthorization
    rw [show s.pilotIdRequested = false from hflag]
    simp only [issuePilotId, hknown]
    exact issue_ne_nil _ _

/-- The chain of a settled submitter that misses a value issues a request. -/
theorem requestAuthorization_ne_nil (h : s.Settled)
    (hposition : s.currentPosition.isSome)
    (hmissing : s.authorization = none ∨ s.flight = none ∨
      s.encryptionKey = none) :
    s.requestAuthorization.client.outstanding ≠ [] := by
  rw [requestAuthorization]
  split
  next authorization hvalue =>
    have hsame : { s with authorization := some authorization } = s := by
      rw [← hvalue]
    rw [handleRequestAuthorizationFinished, hsame]
    refine requestPilotId_ne_nil h (by rw [hvalue]; rfl) hposition fun hflight => ?_
    rcases hmissing with hnone | hnone | hnone
    · rw [hnone] at hvalue
      cases hvalue
    · rw [hnone] at hflight
      cases hflight
    · exact hnone
  next hvalue =>
    have hflag := h.low .authentication (by decide)
      (by simp [Stored.Has, stored, hvalue])
    rw [show s.authorizationRequested = false from hflag]
    simp only [Bool.false_eq_true, if_false, issueAuthorization]
    split
    · exact issue_ne_nil _ _
    · exact issue_ne_nil _ _

/-- Flags and values do not depend on the position. -/
theorem Settled.withPosition (h : s.Settled)
    (position : Mavlink.GlobalPositionInt) :
    Settled { s with currentPosition := some position } where
  has := by
    intro kind hkind hraised
    have hhas := h.has kind hkind (by cases kind <;> exact hraised)
    cases kind <;> exact hhas
  ended := h.ended
  communicates := h.communicates

theorem Settled.progresses (h : s.client.outstanding = [] → s.Settled) :
    s.Progresses := by
  intro hstate hempty position
  by_cases hall : s.authorization.isSome ∧ s.flight.isSome ∧ s.encryptionKey.isSome
  · left
    obtain ⟨authorization, hauthorization⟩ := Option.isSome_iff_exists.mp hall.1
    obtain ⟨flight, hflight⟩ := Option.isSome_iff_exists.mp hall.2.1
    obtain ⟨key, hkey⟩ := Option.isSome_iff_exists.mp hall.2.2
    refine ⟨flight, hflight, key, ?_⟩
    simp only [submit, hstate, hauthorization, hflight, hkey]
    rfl
  · right
    have hmissing : s.authorization = none ∨ s.flight = none ∨
        s.encryptionKey = none := by
      simpa only [← Option.not_isSome_iff_eq_none, ← not_and_or] using hall
    have hchain : s.submit position =
        requestAuthorization { s with currentPosition := some position } := by
      simp only [submit, hstate]
      split
      next authorization flight key hauthorization hflight hkey =>
        simp [hauthorization, hflight, hkey] at hmissing
      next => rfl
    rw [hchain]
    exact requestAuthorization_ne_nil ((h hempty).withPosition position) rfl hmissing

/-! ## Runs -/

/-- What holds in every run without `deactivate` whose steps meet the two
conditions. -/
structure Recoverable (s : TelemetrySubmitter) : Prop extends s.CreatesOnce where
  endsKnown : s.EndsKnown
  kept : ∀ kind, Request.Kind.IsSingle kind → (s.slot kind).Kept
  keepsValues : s.KeepsValues
  endings : s.Ending
  communicates : s.Communicates

theorem Step.recoverable {event : Event} (hstep : Step s event s')
    (hevent : event ≠ .deactivate) (hposition : s.CreatesWithPosition event)
    (hcomms : s.CommsFailUnderPlan event) (h : s.Recoverable) :
    s'.Recoverable where
  toCreatesOnce := hstep.createsOnce hevent h.toCreatesOnce
  endsKnown := hstep.endsKnown h.endsKnown
  kept := fun kind hkind =>
    hstep.kept h.endsKnown hevent hposition hkind (h.kept kind hkind)
  keepsValues := hstep.keepsValues hevent h.keepsValues
  endings := hstep.ending hevent (h.single .search (by decide))
    h.cleaningUp h.endings
  communicates := hstep.communicates hevent hcomms h.communicates

theorem recoverable_create (credentials : Credentials) (aircraftId : String) :
    (create credentials aircraftId).Recoverable where
  toCreatesOnce := createsOnce_create credentials aircraftId
  endsKnown := by simp [EndsKnown, create]
  kept := by
    intro kind hkind hraised
    cases kind <;> cases hraised
  keepsValues := fun kind hsucceeded => by cases hsucceeded
  endings := ending_of_low rfl
  communicates := (nomatch ·)

/-- With nothing outstanding, a recoverable submitter is settled. -/
theorem Recoverable.settled (h : s.Recoverable)
    (hempty : s.client.outstanding = []) : s.Settled where
  has := by
    intro kind hkind hraised
    have hone := h.kept kind hkind hraised
    simp only [slot, hempty, List.countP_nil, Nat.zero_add] at hone
    exact h.keepsValues kind hone
  ended := by
    intro hraised
    obtain ⟨flights, hflights⟩ :=
      Option.isSome_iff_exists.mp (h.endings.known hraised)
    rw [cleanedUp_iff, hflights, Option.some.injEq]
    apply List.eq_nil_iff_forall_not_mem.mpr
    intro flight hflight
    have hpending := h.endings.pending hraised flights hflights flight.id
    simp only [endsPending, hempty, List.countP_nil, Nat.le_zero,
      List.countP_eq_zero] at hpending
    exact hpending flight hflight (by simp)
  communicates := h.communicates

theorem Recoverable.progresses (h : s.Recoverable) : s.Progresses :=
  Settled.progresses h.settled

/-- In a run without `deactivate` in which every request succeeds, a submitter
that comes to the creation of a flight only with a position progresses. -/
theorem progresses_of_successes {credentials : Credentials} {aircraftId : String}
    {events : List Event} (hevents : .deactivate ∉ events)
    (hsuccess : ∀ i, .answer i .failure ∉ events)
    (hmeets : Machine.Meets step CreatesWithPosition
      (create credentials aircraftId) events)
    (hrun : Machine.run step (create credentials aircraftId) events = some s) :
    s.Progresses := by
  have hquiet : Machine.Meets step
      (fun _ event => event ≠ .deactivate ∧ ∀ i, event ≠ .answer i .failure)
      (create credentials aircraftId) events :=
    Machine.meets_of_mem _ fun event hevent => by
      constructor
      · rintro rfl
        exact hevents hevent
      · rintro i rfl
        exact hsuccess i hevent
  have hinv := invariant_of_step Recoverable
    (fun s event s' hinv hcond hstep => by
      obtain ⟨hposition, hevent, hsucceeds⟩ := hcond
      refine hstep.recoverable hevent hposition ?_ hinv
      cases event with
      | answer i reply =>
          intro ticket hticket hkind hfails
          cases reply with
          | failure => exact absurd rfl (hsucceeds i)
          | _ => cases hfails
      | _ => trivial)
    (recoverable_create credentials aircraftId) (hmeets.and hquiet) hrun
  exact hinv.progresses

/-- The position arrives after the search was answered. -/
def latePositionRun : List Event :=
  [.activate, .answer 0 (.authorization "token"), .answer 0 (.pilot "pilot"),
    .answer 0 (.flights []), .submit ⟨350000000, -780000000, 0, 0⟩]

theorem not_progresses_latePositionRun :
    ∃ s, Machine.run step (create {} "aircraft") latePositionRun = some s ∧
      s.currentPosition.isSome ∧ ¬ s.Progresses := by
  obtain ⟨s, hrun, hsome, hstuck⟩ : ∃ s,
      Machine.run step (create {} "aircraft") latePositionRun = some s ∧
        s.currentPosition.isSome ∧ s.IsStuck ⟨350000001, -780000000, 0, 0⟩ :=
    Machine.exists_run (by decide)
  exact ⟨s, hrun, hsome, hstuck.not_progresses⟩

/-- The position arrives while the pilot is looked up, and the mission is
created by polygon. -/
def polygonRun : List Event :=
  [.setMissionGeometry (.polygon {
      outerRing := [{
        latitude := .finite 35, longitude := .finite (-78)
        altitude := some (.finite 50) }] }),
    .activate,
    .answer 0 (.authorization "token"), .submit ⟨350000000, -780000000, 0, 0⟩,
    .answer 0 (.pilot "pilot"), .answer 0 (.flights [{ id := "old" }]),
    .answer 0 .ended, .answer 0 (.plan { id := "plan" }),
    .answer 0 (.plan { id := "plan", flightId := some "flight" }),
    .answer 0 (.monitor 1), .answer 0 (.key "key")]

theorem progresses_of_successes_polygonRun :
    ∃ s, Machine.run step (create {} "aircraft") polygonRun = some s ∧
      s.Progresses := by
  obtain ⟨s, hrun⟩ : ∃ s,
      Machine.run step (create {} "aircraft") polygonRun = some s :=
    Option.isSome_iff_exists.mp (by decide)
  exact ⟨s, hrun, progresses_of_successes (by simp [polygonRun])
    (by simp [polygonRun]) (by decide) hrun⟩

/-! ## Failures -/

/-- A position was submitted before `activate`. -/
def ActivatesWithPosition (s : TelemetrySubmitter) : Event → Prop
  | .activate => s.currentPosition.isSome
  | _ => True

instance (s : TelemetrySubmitter) : DecidablePred s.ActivatesWithPosition
  | .activate => inferInstanceAs (Decidable (_ = true))
  | .deactivate | .submit _ | .setMissionGeometry _ | .answer _ _ =>
      inferInstanceAs (Decidable True)

/-- Nothing is asked for before a position is known. -/
def AsksWithPosition (s : TelemetrySubmitter) : Prop :=
  s.currentPosition.isSome ∨ s.client.outstanding = []

theorem AsksWithPosition.createsWithPosition {event : Event}
    (h : s.AsksWithPosition) (hactivate : s.ActivatesWithPosition event) :
    s.CreatesWithPosition event := by
  cases event with
  | activate => exact fun _ => hactivate
  | submit => trivial
  | deactivate | setMissionGeometry => exact (False.elim ·)
  | answer i reply =>
      rintro ⟨ticket, hticket, -⟩
      rcases h with hsome | hempty
      · exact hsome
      · rw [hempty] at hticket
        cases hticket

theorem Step.asksWithPosition {event : Event} (hstep : Step s event s')
    (hevent : event ≠ .deactivate) (hactivate : s.ActivatesWithPosition event)
    (h : s.AsksWithPosition) : s'.AsksWithPosition := by
  have hkeeps : ∀ {a b : TelemetrySubmitter}, Chain a b →
      a.currentPosition.isSome → b.AsksWithPosition := by
    intro a b hchain hsome
    have hsame : b.currentPosition = a.currentPosition :=
      congrArg Stored.currentPosition (chain_extends hchain).stored
    exact Or.inl (hsame ▸ hsome)
  cases hstep with
  | activate hchain => exact hkeeps hchain hactivate
  | deactivateInactive | deactivateEnding | deactivate => exact absurd rfl hevent
  | submitInactive | submitUpdates => exact Or.inl rfl
  | submitRequesting hstate hmissing hchain => exact hkeeps hchain rfl
  | setMissionGeometry => exact h
  | answer hticket habsorbs hchain =>
      apply hkeeps hchain
      have hsame : _ = s.currentPosition := habsorbs.currentPosition
      rw [hsame]
      rcases h with hsome | hempty
      · exact hsome
      · rw [hempty] at hticket
        cases hticket

/-- In a run without `deactivate` that knows a position before `activate`, a
submitter recovers from every failure, but one of the flight communications of a
flight that came without a plan. -/
theorem progresses_after_failures {credentials : Credentials}
    {aircraftId : String} {events : List Event}
    (hevents : .deactivate ∉ events)
    (hposition : Machine.Meets step ActivatesWithPosition
      (create credentials aircraftId) events)
    (hmeets : Machine.Meets step CommsFailUnderPlan
      (create credentials aircraftId) events)
    (hrun : Machine.run step (create credentials aircraftId) events = some s) :
    s.Progresses := by
  have hstays : Machine.Meets step (fun _ event => event ≠ .deactivate)
      (create credentials aircraftId) events :=
    Machine.meets_of_mem _ fun event hevent => by
      rintro rfl
      exact hevents hevent
  have hinv := invariant_of_step (fun s => s.AsksWithPosition ∧ s.Recoverable)
    (fun s event s' hinv hcond hstep => by
      obtain ⟨⟨hactivate, hcomms⟩, hevent⟩ := hcond
      have hcreates := hinv.1.createsWithPosition hactivate
      exact ⟨hstep.asksWithPosition hevent hactivate hinv.1,
        hstep.recoverable hevent hcreates hcomms hinv.2⟩)
    ⟨Or.inr rfl, recoverable_create credentials aircraftId⟩
    ((hposition.and hmeets).and hstays) hrun
  exact hinv.2.progresses

/-- A flight by point whose communications fail. -/
def failedCommsRun : List Event :=
  [.submit ⟨350000000, -780000000, 0, 0⟩, .activate,
    .answer 0 (.authorization "token"), .answer 0 (.pilot "pilot"),
    .answer 0 (.flights []), .answer 0 (.flight { id := "flight" }),
    .answer 0 (.monitor 1), .answer 0 .failure]

theorem not_progresses_failedCommsRun :
    ∃ s, Machine.run step (create {} "aircraft") failedCommsRun = some s ∧
      s.currentPosition.isSome ∧ ¬ s.Progresses := by
  obtain ⟨s, hrun, hsome, hstuck⟩ : ∃ s,
      Machine.run step (create {} "aircraft") failedCommsRun = some s ∧
        s.currentPosition.isSome ∧ s.IsStuck ⟨350000001, -780000000, 0, 0⟩ :=
    Machine.exists_run (by decide)
  exact ⟨s, hrun, hsome, hstuck.not_progresses⟩

/-- Every kind of request fails once and is issued again by a `submit`; the
flight has a plan when its communications fail. -/
def retryingRun : List Event :=
  [.submit ⟨350000000, -780000000, 0, 0⟩,
    .setMissionGeometry (.polygon {
      outerRing := [{
        latitude := .finite 35, longitude := .finite (-78)
        altitude := some (.finite 50) }] }),
    .activate,
    .answer 0 .failure, .submit ⟨350000001, -780000000, 0, 0⟩,
    .answer 0 (.authorization "token"),
    .answer 0 .failure, .submit ⟨350000002, -780000000, 0, 0⟩,
    .answer 0 (.pilot "pilot"),
    .answer 0 .failure, .submit ⟨350000003, -780000000, 0, 0⟩,
    .answer 0 (.flights [{ id := "old" }]),
    .answer 0 .failure, .submit ⟨350000004, -780000000, 0, 0⟩,
    .answer 0 .ended,
    .answer 0 .failure, .submit ⟨350000005, -780000000, 0, 0⟩,
    .answer 0 (.plan { id := "plan" }),
    .answer 0 .failure, .submit ⟨350000006, -780000000, 0, 0⟩,
    .answer 0 (.plan { id := "plan", flightId := some "flight" }),
    .answer 0 .failure, .answer 0 .failure]

theorem progresses_after_failures_retryingRun :
    ∃ s, Machine.run step (create {} "aircraft") retryingRun = some s ∧
      s.Progresses := by
  obtain ⟨s, hrun⟩ : ∃ s,
      Machine.run step (create {} "aircraft") retryingRun = some s :=
    Option.isSome_iff_exists.mp (by decide)
  exact ⟨s, hrun, progresses_after_failures (by simp [retryingRun]) (by decide)
    (by decide) hrun⟩

end Airmap.Monitor.TelemetrySubmitter
