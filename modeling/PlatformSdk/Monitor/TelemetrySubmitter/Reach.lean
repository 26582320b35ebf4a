import PlatformSdk.Monitor.TelemetrySubmitter.Steps

/-!
# Events that come to the creation of a flight

A chain stops at the first request it has to wait for.  `ReachesCreation` says
which events find everything that stands before `request_create_flight_plan`:
their chain is that function alone, and no other event creates anything.
-/

namespace Airmap.Monitor.TelemetrySubmitter

variable {s s' : TelemetrySubmitter}

/-- The search was answered and no flight is left to end. -/
def CleanedUp (flights : Option (List Flight)) : Prop :=
  flights.any List.isEmpty = true

instance (flights : Option (List Flight)) : Decidable (CleanedUp flights) :=
  inferInstanceAs (Decidable (_ = true))

theorem cleanedUp_iff {flights : Option (List Flight)} :
    CleanedUp flights ↔ flights = some [] := by
  cases flights with
  | none => simp [CleanedUp]
  | some flights => simp [CleanedUp]

/-- Everything that `request_authorization` passes on its way is known. -/
def ReadyToCreate (s : TelemetrySubmitter) : Prop :=
  s.authorization.isSome ∧ s.pilotId.isSome ∧ CleanedUp s.activeFlights

instance : DecidablePred ReadyToCreate := fun _ =>
  inferInstanceAs (Decidable (_ ∧ _ ∧ _))

/-- `request_create_flight_plan` has a flight to create. -/
def CreationDue (s : TelemetrySubmitter) : Prop :=
  s.flightPlan.isNone ∧ s.createFlightPlanRequested = false ∧
    s.currentPosition.isSome

instance : DecidablePred CreationDue := fun _ =>
  inferInstanceAs (Decidable (_ ∧ _ ∧ _))

/-- After this answer the chain comes to the creation of a flight. -/
def AnswerReachesCreation (s : TelemetrySubmitter) : Request → Reply → Prop
  | .authenticateWithPassword _, .authorization _
  | .authenticateAnonymously, .authorization _ =>
      s.pilotId.isSome ∧ CleanedUp s.activeFlights
  | .authenticated _, .pilot _ => CleanedUp s.activeFlights
  | .search _, .flights flights => CleanedUp (some flights)
  | .endActiveFlight _ id, .ended =>
      CleanedUp (s.activeFlights.map (eraseFlight id))
  | _, _ => False

instance (s : TelemetrySubmitter) (request : Request) (reply : Reply) :
    Decidable (s.AnswerReachesCreation request reply) := by
  unfold AnswerReachesCreation
  split <;> infer_instance

/-- The event comes to the creation of a flight. -/
def ReachesCreation (s : TelemetrySubmitter) : Event → Prop
  | .activate => s.ReadyToCreate
  | .submit _ =>
      s.state = .active ∧ (s.flight.isNone ∨ s.encryptionKey.isNone) ∧
        s.ReadyToCreate
  | .answer i reply =>
      ∃ ticket ∈ s.client.outstanding[i]?,
        s.AnswerReachesCreation ticket.request reply
  | .deactivate | .setMissionGeometry _ => False

instance (s : TelemetrySubmitter) : DecidablePred s.ReachesCreation
  | .activate => inferInstanceAs (Decidable s.ReadyToCreate)
  | .submit _ => inferInstanceAs (Decidable (_ ∧ _ ∧ _))
  | .answer _ _ => inferInstanceAs (Decidable (∃ _ ∈ _, _))
  | .deactivate | .setMissionGeometry _ => inferInstanceAs (Decidable False)

/-! ## The chain of an event that gets there -/

theorem requestEndActiveFlights_of_cleanedUp (h : CleanedUp s.activeFlights) :
    s.requestEndActiveFlights = s.requestCreateFlightPlan := by
  simp [requestEndActiveFlights, cleanedUp_iff.mp h,
    handleRequestEndActiveFlightsFinished]

theorem requestActiveFlights_of_cleanedUp (h : CleanedUp s.activeFlights) :
    s.requestActiveFlights = s.requestCreateFlightPlan := by
  rw [← requestEndActiveFlights_of_cleanedUp h]
  have hflights := cleanedUp_iff.mp h
  simp only [requestActiveFlights, hflights, handleRequestActiveFlightsFinished]
  rw [← hflights]

theorem requestPilotId_of_cleanedUp (hpilot : s.pilotId.isSome)
    (h : CleanedUp s.activeFlights) :
    s.requestPilotId = s.requestCreateFlightPlan := by
  rw [← requestActiveFlights_of_cleanedUp h]
  obtain ⟨pilotId, hvalue⟩ := Option.isSome_iff_exists.mp hpilot
  simp only [requestPilotId, hvalue, handleRequestPilotIdFinished]
  rw [← hvalue]

theorem handleRequestEndActiveFlightFinished_eq (id : String)
    (hknown : s.activeFlights.isSome) :
    s.handleRequestEndActiveFlightFinished id =
      let s₁ := { s with activeFlights := s.activeFlights.map (eraseFlight id) }
      if CleanedUp s₁.activeFlights then s₁.requestCreateFlightPlan else s₁ := by
  obtain ⟨flights, hflights⟩ := Option.isSome_iff_exists.mp hknown
  simp only [handleRequestEndActiveFlightFinished, access, Client.access,
    hflights, Option.isSome_some, if_true, Option.map_some, Option.getD_some,
    handleRequestEndActiveFlightsFinished]
  rfl

/-- The callback stores its value and goes straight to the creation. -/
theorem callback_of_reachesCreation {request : Request} {reply : Reply}
    {s₁ : TelemetrySubmitter} (habsorbs : Absorbs s request reply s₁)
    (hcallback : s.callback request reply = some s')
    (h : s.AnswerReachesCreation request reply) :
    s' = s₁.requestCreateFlightPlan := by
  cases habsorbs with
  | authorization hkind =>
      cases request with
      | authenticateWithPassword | authenticateAnonymously =>
          cases hcallback
          exact requestPilotId_of_cleanedUp h.1 h.2
      | _ => cases hkind
  | pilotId =>
      cases hcallback
      exact requestActiveFlights_of_cleanedUp h
  | activeFlights =>
      cases hcallback
      exact requestEndActiveFlights_of_cleanedUp h
  | @endActiveFlight _ id =>
      cases hcallback
      have hrest : s.activeFlights.map (eraseFlight id) = some [] :=
        cleanedUp_iff.mp h
      obtain ⟨flights, hflights, -⟩ := Option.map_eq_some_iff.mp hrest
      rw [handleRequestEndActiveFlightFinished_eq id (by rw [hflights]; rfl)]
      exact if_pos h
  | authorizationFailed | creationFailed =>
      cases request <;> exact h.elim
  | endFlight => exact h.elim
  | _ => exact h.elim

/-- What comes before the creation leaves the members alone that it reads. -/
theorem Absorbs.creationDue_iff {request : Request} {reply : Reply}
    (habsorbs : Absorbs s request reply s')
    (h : s.AnswerReachesCreation request reply) :
    s'.CreationDue ↔ s.CreationDue := by
  cases habsorbs with
  | creationFailed => cases request <;> exact h.elim
  | flightPlan => exact h.elim
  | submitted => exact h.elim
  | _ => exact Iff.rfl

/-! ## The chain of an event that does not -/

@[simp] theorem requestMonitorTraffic_createFlightPlanRequested
    (s : TelemetrySubmitter) :
    s.requestMonitorTraffic.createFlightPlanRequested =
      s.createFlightPlanRequested := by
  rw [requestMonitorTraffic]
  repeat' split
  all_goals rfl

@[simp] theorem requestStartFlightComms_createFlightPlanRequested
    (s : TelemetrySubmitter) :
    s.requestStartFlightComms.createFlightPlanRequested =
      s.createFlightPlanRequested := by
  rw [requestStartFlightComms]
  repeat' split
  all_goals rfl

@[simp] theorem handleRequestSubmitFlightPlanFinished_createFlightPlanRequested
    (flight : Flight) (s : TelemetrySubmitter) :
    (s.handleRequestSubmitFlightPlanFinished flight).createFlightPlanRequested =
      s.createFlightPlanRequested := by
  simp [handleRequestSubmitFlightPlanFinished]

@[simp] theorem requestSubmitFlightPlan_createFlightPlanRequested
    (s : TelemetrySubmitter) :
    s.requestSubmitFlightPlan.createFlightPlanRequested =
      s.createFlightPlanRequested := by
  rw [requestSubmitFlightPlan]
  split
  · simp
  · split <;> rfl

@[simp] theorem issueEndActiveFlights_createFlightPlanRequested
    (s : TelemetrySubmitter) :
    s.issueEndActiveFlights.createFlightPlanRequested =
      s.createFlightPlanRequested := by
  obtain ⟨client, hclient⟩ := issueEndActiveFlights_frame s
  rw [hclient]

theorem requestEndActiveFlights_createFlightPlanRequested
    (h : ¬ CleanedUp s.activeFlights) :
    s.requestEndActiveFlights.createFlightPlanRequested =
      s.createFlightPlanRequested := by
  rw [requestEndActiveFlights]
  split
  next hempty =>
    obtain ⟨hknown, hnil⟩ := Bool.and_eq_true_iff.mp hempty
    obtain ⟨flights, hflights⟩ := Option.isSome_iff_exists.mp hknown
    rw [hflights] at hnil h
    exact (h hnil).elim
  next => split <;> simp

theorem requestActiveFlights_createFlightPlanRequested
    (h : ¬ CleanedUp s.activeFlights) :
    s.requestActiveFlights.createFlightPlanRequested =
      s.createFlightPlanRequested := by
  rw [requestActiveFlights]
  split
  next flights hflights =>
    rw [hflights] at h
    exact requestEndActiveFlights_createFlightPlanRequested
      (s := { s with activeFlights := some flights }) h
  next => split <;> rfl

theorem requestPilotId_createFlightPlanRequested
    (h : ¬ (s.pilotId.isSome ∧ CleanedUp s.activeFlights)) :
    s.requestPilotId.createFlightPlanRequested =
      s.createFlightPlanRequested := by
  rw [requestPilotId]
  split
  next pilotId hvalue =>
    refine requestActiveFlights_createFlightPlanRequested
      (s := { s with pilotId := some pilotId }) fun hflights => h ⟨?_, hflights⟩
    rw [hvalue]
    rfl
  next =>
    split
    · rfl
    · obtain ⟨client, hclient⟩ := issuePilotId_frame s
      rw [hclient]

theorem requestAuthorization_createFlightPlanRequested
    (h : ¬ s.ReadyToCreate) :
    s.requestAuthorization.createFlightPlanRequested =
      s.createFlightPlanRequested := by
  rw [requestAuthorization]
  split
  next authorization hvalue =>
    refine requestPilotId_createFlightPlanRequested
      (s := { s with authorization := some authorization })
      fun hrest => h ⟨?_, hrest⟩
    rw [hvalue]
    rfl
  next =>
    split
    · rfl
    · obtain ⟨client, hclient⟩ := issueAuthorization_frame s
      rw [hclient]

/-- The callback leaves the flag of the creation as its first store does. -/
theorem callback_createFlightPlanRequested {request : Request} {reply : Reply}
    {s₁ : TelemetrySubmitter} (habsorbs : Absorbs s request reply s₁)
    (hknown : request.kind = .endActiveFlight → s.activeFlights.isSome)
    (hcallback : s.callback request reply = some s')
    (h : ¬ s.AnswerReachesCreation request reply) :
    s'.createFlightPlanRequested = s₁.createFlightPlanRequested := by
  cases habsorbs with
  | authorization hkind =>
      cases request with
      | authenticateWithPassword | authenticateAnonymously =>
          cases hcallback
          exact requestPilotId_createFlightPlanRequested h
      | _ => cases hkind
  | pilotId =>
      cases hcallback
      exact requestActiveFlights_createFlightPlanRequested h
  | activeFlights =>
      cases hcallback
      exact requestEndActiveFlights_createFlightPlanRequested h
  | @endActiveFlight _ id =>
      cases hcallback
      rw [handleRequestEndActiveFlightFinished_eq id (hknown rfl)]
      exact congrArg createFlightPlanRequested (if_neg h)
  | authorizationFailed hkind | creationFailed hkind =>
      cases request <;> cases hkind <;> cases hcallback <;> rfl
  | endFlight => cases reply <;> cases hcallback <;> rfl
  | flightPlan =>
      cases hcallback
      exact requestSubmitFlightPlan_createFlightPlanRequested _
  | flightByPoint =>
      cases hcallback
      exact handleRequestSubmitFlightPlanFinished_createFlightPlanRequested _ _
  | submitted =>
      cases hcallback
      exact handleRequestSubmitFlightPlanFinished_createFlightPlanRequested _ _
  | _ =>
      cases hcallback
      rfl

/-! ## Entries of the creation -/

/-- The entry was made by `request_create_flight_plan` itself. -/
def Entry.OfCreation : Entry → Prop
  | .issued ticket => ticket.request.kind = .creation
  | .undefined (.authorization purpose) => purpose = .creation
  | .undefined .pilotId | .undefined .detailsForPolygon
  | .undefined .maxElement | .undefined .altitude => True
  | _ => False

/-- `s'` is `s` with entries that meet `q` on top of the history. -/
def Adds (q : Entry → Prop) (s s' : TelemetrySubmitter) : Prop :=
  Machine.GrowsBy q s.client.history s'.client.history

theorem Adds.issue {q : Entry → Prop} (h : Adds q s s') (request : Request)
    (hq : q (.issued ⟨request, s'.client.activations, s'.state⟩)) :
    Adds q s (s'.issue request) :=
  h.cons hq

theorem Adds.access {q : Entry → Prop} (h : Adds q s s') (what : Access)
    (ok : Bool) (hq : q (.undefined what)) : Adds q s (s'.access what ok) := by
  cases ok with
  | true => exact h
  | false => exact h.cons hq

theorem foldl_endActiveFlight_adds {q : Entry → Prop} (flights : List Flight)
    (h : Adds q s s')
    (hissued : ∀ ticket, ticket.request.kind = .endActiveFlight →
      q (.issued ticket))
    (hundefined : q (.undefined (.authorization .endActiveFlight))) :
    Adds q s (flights.foldl endActiveFlight s') := by
  induction flights generalizing s' with
  | nil => exact h
  | cons flight flights ih =>
      exact ih ((h.access _ _ hundefined).issue _ (hissued _ rfl))

/-- One call either leaves the flag of the creation as it is and makes no entry
of it, or raises it. -/
theorem Action.creation (h : Action s s') :
    (s'.createFlightPlanRequested = s.createFlightPlanRequested ∧
      Adds (fun entry => ¬ Entry.OfCreation entry) s s') ∨
    (s.createFlightPlanRequested = false ∧
      s'.createFlightPlanRequested = true) := by
  have hstart : Adds (fun entry => ¬ Entry.OfCreation entry) s s := .refl _
  cases h with
  | authorization =>
      refine Or.inl ?_
      rw [issueAuthorization]
      dsimp only
      split
      · exact ⟨rfl, hstart.issue (.authenticateWithPassword _)
          (by simp [Entry.OfCreation, Request.kind])⟩
      · exact ⟨rfl, hstart.issue .authenticateAnonymously
          (by simp [Entry.OfCreation, Request.kind])⟩
  | pilotId =>
      refine Or.inl ?_
      rw [issuePilotId]
      dsimp only
      split
      · exact ⟨rfl, hstart.issue (.authenticated _)
          (by simp [Entry.OfCreation, Request.kind])⟩
      · exact ⟨rfl, hstart⟩
  | activeFlights =>
      exact Or.inl ⟨rfl, hstart.issue (.search _)
        (by simp [Entry.OfCreation, Request.kind])⟩
  | endActiveFlights =>
      refine Or.inl ⟨issueEndActiveFlights_createFlightPlanRequested s, ?_⟩
      apply foldl_endActiveFlight_adds
      · exact hstart.access _ _ (by simp [Entry.OfCreation])
      · intro ticket hkind
        simp [Entry.OfCreation, hkind]
      · simp [Entry.OfCreation]
  | createFlightPlan hflights hvalue hflag =>
      obtain ⟨client, hclient⟩ := issueCreateFlightPlan_frame s
      exact Or.inr ⟨hflag, by rw [hclient]⟩
  | submitFlightPlan =>
      refine Or.inl ⟨rfl, ((hstart.access _ _ ?_).access _ _ ?_).issue _ ?_⟩
      all_goals simp [Entry.OfCreation, Request.kind]
  | monitorTraffic =>
      refine Or.inl ⟨rfl, ((hstart.access _ _ ?_).access _ _ ?_).issue _ ?_⟩
      all_goals simp [Entry.OfCreation, Request.kind]
  | subscribe =>
      exact Or.inl ⟨rfl, hstart.cons (by simp [Entry.OfCreation])⟩
  | startFlightComms =>
      refine Or.inl ⟨rfl, ((hstart.access _ _ ?_).access _ _ ?_).issue _ ?_⟩
      all_goals simp [Entry.OfCreation, Request.kind]

theorem chain_creation (h : Chain s s') :
    (s'.createFlightPlanRequested = s.createFlightPlanRequested ∧
      Adds (fun entry => ¬ Entry.OfCreation entry) s s') ∨
    (s.createFlightPlanRequested = false ∧
      s'.createFlightPlanRequested = true) := by
  induction h with
  | refl => exact Or.inl ⟨rfl, .refl _⟩
  | tail _ haction ih =>
      rcases ih with ⟨hsame, hadds⟩ | ⟨hlow, hraised⟩
      · rcases haction.creation with ⟨hsame', hadds'⟩ | ⟨hlow, hraised⟩
        · exact Or.inl ⟨hsame'.trans hsame, hadds.trans hadds'⟩
        · exact Or.inr ⟨hsame.symm.trans hlow, hraised⟩
      · rcases haction.creation with ⟨hsame', -⟩ | ⟨hlow', -⟩
        · exact Or.inr ⟨hlow, hsame'.trans hraised⟩
        · rw [hraised] at hlow'
          cases hlow'

/-- A chain that leaves the flag of the creation as it is creates nothing. -/
theorem chain_without_creation (h : Chain s s')
    (hflag : s'.createFlightPlanRequested = s.createFlightPlanRequested) :
    Adds (fun entry => s.stored.Permits entry ∧ ¬ Entry.OfCreation entry) s s' := by
  refine (chain_extends h).history.and ?_
  rcases chain_creation h with ⟨-, hadds⟩ | ⟨hlow, hraised⟩
  · exact hadds
  · rw [hflag, hlow] at hraised
    cases hraised

theorem Stored.Permits.due_of_creation {v : Stored} {entry : Entry}
    (hpermits : v.Permits entry) (h : Entry.OfCreation entry) :
    v.Due .creation := by
  cases entry with
  | issued ticket =>
      have hdue := hpermits.2.2
      rw [show ticket.request.kind = .creation from h] at hdue
      exact hdue
  | undefined what =>
      cases what with
      | authorization purpose =>
          have hdue := hpermits.2
          rw [show purpose = .creation from h] at hdue
          exact hdue
      | pilotId => exact hpermits.2.1
      | detailsForPolygon | maxElement | altitude => exact hpermits.1
      | _ => exact h.elim
  | _ => exact h.elim

/-- Where no creation is due, a chain makes no entry of one. -/
theorem chain_without_due (hchain : Chain s s') (h : ¬ s.CreationDue) :
    Adds (fun entry => s.stored.Permits entry ∧ ¬ Entry.OfCreation entry) s s' := by
  have hhistory := (chain_extends hchain).history
  by_cases hflag : s.createFlightPlanRequested = false
  · refine hhistory.mono fun entry hpermits => ⟨hpermits, fun hcreation => h ?_⟩
    obtain ⟨-, hplan, hposition⟩ := hpermits.due_of_creation hcreation
    exact ⟨Option.isNone_iff_eq_none.mpr hplan, hflag, hposition⟩
  · refine hhistory.and ?_
    rcases chain_creation hchain with ⟨-, hadds⟩ | ⟨hlow, -⟩
    · exact hadds
    · exact absurd hlow hflag

end Airmap.Monitor.TelemetrySubmitter
