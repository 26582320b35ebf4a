import PlatformSdk.Monitor.TelemetrySubmitter.Reach

/-!
# What an inactive submitter issues

`deactivate` clears what it finds, but the callbacks of the requests before it
still run.  An inactive submitter keeps quiet exactly as long as none of them
comes to the creation of a flight, stores a plan without its flight, or stores
a flight that is not monitored and has no key.
-/

namespace Airmap.Monitor.TelemetrySubmitter

variable {s s' : TelemetrySubmitter}

/-- The request starts or changes something on the server, or monitors it. -/
def Request.Kind.Intrudes : Request.Kind → Prop
  | .creation | .submission | .monitoring | .communications => True
  | _ => False

instance : DecidablePred Request.Kind.Intrudes
  | .creation | .submission | .monitoring | .communications =>
      inferInstanceAs (Decidable True)
  | .authentication | .pilot | .search | .endActiveFlight | .endFlight =>
      inferInstanceAs (Decidable False)

/-- Such a request was issued by an active submitter. -/
def Entry.Quiet : Entry → Prop
  | .issued ticket =>
      Request.Kind.Intrudes ticket.request.kind → ticket.state = .active
  | _ => True

instance : DecidablePred Entry.Quiet
  | .issued _ => inferInstanceAs (Decidable (_ → _))
  | .answered _ _ | .submittedUpdates _ _ _ | .subscribed _ | .undefined _ =>
      inferInstanceAs (Decidable True)

/-- No such request was issued by an inactive submitter. -/
def Quiescent (s : TelemetrySubmitter) : Prop :=
  ∀ entry ∈ s.client.history, Entry.Quiet entry

instance : DecidablePred Quiescent := fun _ =>
  inferInstanceAs (Decidable (∀ _ ∈ _, _))

/-- The plan that a successful creation by polygon reports. -/
def reportedPlan : Request → Reply → Option FlightPlan
  | .createByPolygon _, .plan plan => some plan
  | _, _ => none

/-- An answer to an inactive submitter neither comes to a creation that is
still to be asked for, nor reports a plan while no flight is stored, nor
reports a flight that still has to be monitored or to get its key. -/
def KeepsQuiet (s : TelemetrySubmitter) : Event → Prop :=
  s.OnAnswer fun ticket reply => s.state = .inactive →
    (s.AnswerReachesCreation ticket.request reply → ¬ s.CreationDue) ∧
    ((reportedPlan ticket.request reply).isSome → s.flight.isSome) ∧
    ((reportedFlight ticket.request reply).isSome →
      s.trafficMonitor.isSome ∧ s.encryptionKey.isSome)

instance (s : TelemetrySubmitter) (event : Event) :
    Decidable (s.KeepsQuiet event) :=
  inferInstanceAs (Decidable (s.OnAnswer _ event))

theorem callback_isSome_of_reachesCreation {request : Request} {reply : Reply}
    (h : s.AnswerReachesCreation request reply) :
    (s'.callback request reply).isSome := by
  unfold AnswerReachesCreation at h
  split at h
  · rfl
  · rfl
  · rfl
  · rfl
  · rfl
  · exact h.elim

theorem callback_isSome_of_reportedPlan {request : Request} {reply : Reply}
    (h : (reportedPlan request reply).isSome) :
    (s.callback request reply).isSome := by
  unfold reportedPlan at h
  split at h
  · rfl
  · cases h

/-! ## Dormant submitters -/

/-- Nothing waits to be submitted, monitored or encrypted. -/
structure Dormant (s : TelemetrySubmitter) : Prop where
  submission : s.submitFlightPlanRequested = false
  monitoring : s.trafficMonitoringRequested = false
  communications : s.startFlightCommsRequested = false
  plan : s.flightPlan.isSome → s.flight.isSome
  flight : s.flight.isSome → s.trafficMonitor.isSome ∧ s.encryptionKey.isSome

theorem dormant_reset (s : TelemetrySubmitter) : s.reset.Dormant where
  submission := rfl
  monitoring := rfl
  communications := rfl
  plan := nofun
  flight := nofun

/-- A dormant submitter is not due to submit, to monitor or to ask for a key. -/
theorem Dormant.not_due (h : s.Dormant) {kind : Request.Kind}
    (hdue : s.stored.Due kind) (hintrudes : Request.Kind.Intrudes kind) :
    kind = .creation := by
  cases kind with
  | creation => rfl
  | submission =>
      have hflight := h.plan hdue.1
      have hnone : s.flight = none := hdue.2
      simp [hnone] at hflight
  | monitoring =>
      have hmonitor := (h.flight hdue.1).1
      have hnone : s.trafficMonitor = none := hdue.2
      simp [hnone] at hmonitor
  | communications =>
      have hkey := (h.flight hdue.1).2
      have hnone : s.encryptionKey = none := hdue.2
      simp [hnone] at hkey
  | _ => exact hintrudes.elim

theorem Action.dormant (haction : Action s s') (h : s.Dormant) : s'.Dormant := by
  cases haction with
  | authorization =>
      obtain ⟨client, hclient⟩ := issueAuthorization_frame s
      rw [hclient]
      exact ⟨h.submission, h.monitoring, h.communications, h.plan, h.flight⟩
  | pilotId =>
      obtain ⟨client, hclient⟩ := issuePilotId_frame s
      rw [hclient]
      exact ⟨h.submission, h.monitoring, h.communications, h.plan, h.flight⟩
  | endActiveFlights =>
      obtain ⟨client, hclient⟩ := issueEndActiveFlights_frame s
      rw [hclient]
      exact ⟨h.submission, h.monitoring, h.communications, h.plan, h.flight⟩
  | createFlightPlan =>
      obtain ⟨client, hclient⟩ := issueCreateFlightPlan_frame s
      rw [hclient]
      exact ⟨h.submission, h.monitoring, h.communications, h.plan, h.flight⟩
  | activeFlights | subscribe =>
      exact ⟨h.submission, h.monitoring, h.communications, h.plan, h.flight⟩
  | submitFlightPlan hplan hvalue =>
      have hdue : s.stored.Due .submission :=
        ⟨Option.isSome_of_mem hplan, hvalue⟩
      cases h.not_due hdue trivial
  | monitorTraffic hflight hvalue =>
      have hdue : s.stored.Due .monitoring :=
        ⟨Option.isSome_of_mem hflight, hvalue⟩
      cases h.not_due hdue trivial
  | startFlightComms hflight hvalue =>
      have hdue : s.stored.Due .communications :=
        ⟨Option.isSome_of_mem hflight, hvalue⟩
      cases h.not_due hdue trivial

theorem chain_dormant (hchain : Chain s s') (h : s.Dormant) : s'.Dormant := by
  induction hchain with
  | refl => exact h
  | tail _ haction ih => exact haction.dormant ih

/-- What an answer that keeps the quiet stores leaves the submitter dormant. -/
theorem Absorbs.dormant {request : Request} {reply : Reply}
    (habsorbs : Absorbs s request reply s') (h : s.Dormant)
    (hplan : (reportedPlan request reply).isSome → s.flight.isSome)
    (hflight : (reportedFlight request reply).isSome →
      s.trafficMonitor.isSome ∧ s.encryptionKey.isSome) : s'.Dormant := by
  have hvalues : s'.submitFlightPlanRequested = false ∧
      s'.trafficMonitoringRequested = false ∧
      s'.startFlightCommsRequested = false := by
    cases habsorbs with
    | submissionFailed => exact ⟨rfl, h.monitoring, h.communications⟩
    | monitoringFailed => exact ⟨h.submission, rfl, h.communications⟩
    | communicationsFailed => exact ⟨h.submission, h.monitoring, rfl⟩
    | _ => exact ⟨h.submission, h.monitoring, h.communications⟩
  refine ⟨hvalues.1, hvalues.2.1, hvalues.2.2, ?_, ?_⟩
  · cases habsorbs with
    | flightPlan => exact fun _ => hplan rfl
    | flightByPoint | submitted => exact fun _ => rfl
    | _ => exact h.plan
  · cases habsorbs with
    | flightByPoint | submitted => exact fun _ => hflight rfl
    | trafficMonitor => exact fun hsome => ⟨rfl, (h.flight hsome).2⟩
    | encryptionKey => exact fun hsome => ⟨(h.flight hsome).1, rfl⟩
    | _ => exact h.flight

/-! ## Answers to an inactive submitter -/

/-- A due creation is issued in the state of the submitter. -/
theorem requestCreateFlightPlan_issued (h : s.CreationDue) :
    ∃ ticket, .issued ticket ∈ s.requestCreateFlightPlan.client.history ∧
      ticket.request.kind = .creation ∧ ticket.state = s.state := by
  obtain ⟨hplan, hflag, hposition⟩ := h
  obtain ⟨position, hposition⟩ := Option.isSome_iff_exists.mp hposition
  have hissue : s.requestCreateFlightPlan = s.issueCreateFlightPlan := by
    simp [requestCreateFlightPlan, Option.isNone_iff_eq_none.mp hplan, hflag]
  rw [hissue]
  rw [issueCreateFlightPlan]
  simp only [hposition]
  split
  · exact ⟨_, List.mem_cons_self, rfl, rfl⟩
  · exact ⟨_, List.mem_cons_self, rfl, rfl⟩

/-- A plan that comes without a flight is submitted. -/
theorem requestSubmitFlightPlan_issued (hflight : s.flight = none)
    (hflag : s.submitFlightPlanRequested = false) :
    ∃ ticket, .issued ticket ∈ s.requestSubmitFlightPlan.client.history ∧
      ticket.request.kind = .submission ∧ ticket.state = s.state := by
  have hissue : s.requestSubmitFlightPlan = s.issueSubmitFlightPlan := by
    simp [requestSubmitFlightPlan, hflight, hflag]
  rw [hissue]
  exact ⟨_, List.mem_cons_self, rfl, rfl⟩

/-- A flight that is not monitored yet will be. -/
theorem requestMonitorTraffic_issued (hmonitor : s.trafficMonitor = none)
    (hflag : s.trafficMonitoringRequested = false) :
    ∃ ticket, .issued ticket ∈ s.requestMonitorTraffic.client.history ∧
      ticket.request.kind = .monitoring ∧ ticket.state = s.state := by
  have hissue : s.requestMonitorTraffic = s.issueMonitorTraffic := by
    simp [requestMonitorTraffic, hmonitor, hflag]
  rw [hissue]
  exact ⟨_, List.mem_cons_self, rfl, rfl⟩

/-- A flight without a key asks for one. -/
theorem requestStartFlightComms_issued (hkey : s.encryptionKey = none)
    (hflag : s.startFlightCommsRequested = false) :
    ∃ ticket, .issued ticket ∈ s.requestStartFlightComms.client.history ∧
      ticket.request.kind = .communications ∧ ticket.state = s.state := by
  have hissue : s.requestStartFlightComms = s.issueStartFlightComms := by
    simp [requestStartFlightComms, hkey, hflag]
  rw [hissue]
  exact ⟨_, List.mem_cons_self, rfl, rfl⟩

/-- A request that intrudes from an inactive submitter breaks the quiet. -/
theorem not_quiescent {ticket : Ticket} (hstate : s.state = .inactive)
    (hissued : .issued ticket ∈ s'.client.history)
    (hkind : Request.Kind.Intrudes ticket.request.kind)
    (hticket : ticket.state = s.state) : ¬ s'.Quiescent := by
  intro hquiet
  have hactive : ticket.state = .active := hquiet _ hissued hkind
  rw [hticket, hstate] at hactive
  cases hactive

/-- A flight is taken in quietly only when it is monitored and has a key. -/
theorem monitored_of_quiescent {flight : Flight} (hstate : s.state = .inactive)
    (hmonitoring : s.trafficMonitoringRequested = false)
    (hcommunications : s.startFlightCommsRequested = false)
    (hquiet : (s.handleRequestSubmitFlightPlanFinished flight).Quiescent) :
    s.trafficMonitor.isSome ∧ s.encryptionKey.isSome := by
  have hchain : Chain (requestMonitorTraffic { s with flight := some flight })
      (s.handleRequestSubmitFlightPlanFinished flight) :=
    requestStartFlightComms_chain (requestMonitorTraffic_flight _)
  constructor
  · by_contra hnone
    rw [Option.not_isSome_iff_eq_none] at hnone
    obtain ⟨ticket, hissued, hkind, hticket⟩ := requestMonitorTraffic_issued
      (s := { s with flight := some flight }) hnone hmonitoring
    have hmem := (chain_extends hchain).history.subset hissued
    exact not_quiescent hstate hmem (by rw [hkind]; trivial) hticket hquiet
  · by_contra hnone
    rw [Option.not_isSome_iff_eq_none] at hnone
    have hbefore := chain_extends
      (requestMonitorTraffic_chain (s := { s with flight := some flight }) rfl)
    have hkey : (requestMonitorTraffic
        { s with flight := some flight }).encryptionKey = none :=
      (congrArg Stored.encryptionKey hbefore.stored).trans hnone
    have hflag : (requestMonitorTraffic
        { s with flight := some flight }).startFlightCommsRequested = false := by
      rw [requestMonitorTraffic_startFlightCommsRequested]
      exact hcommunications
    obtain ⟨ticket, hissued, hkind, hticket⟩ :=
      requestStartFlightComms_issued hkey hflag
    have hsame : ticket.state = s.state :=
      hticket.trans (congrArg Stored.state hbefore.stored)
    exact not_quiescent hstate hissued (by rw [hkind]; trivial) hsame hquiet

/-- A plan is taken in quietly only when its flight is stored. -/
theorem flight_of_quiescent {request : Request} {reply : Reply}
    (hstate : s.state = .inactive) (hsubmission : s.submitFlightPlanRequested = false)
    (hcallback : s.callback request reply = some s')
    (hplan : (reportedPlan request reply).isSome) (hquiet : s'.Quiescent) :
    s.flight.isSome := by
  by_contra hnone
  rw [Option.not_isSome_iff_eq_none] at hnone
  unfold reportedPlan at hplan
  split at hplan
  next =>
    cases hcallback
    obtain ⟨ticket, hissued, hkind, hticket⟩ := requestSubmitFlightPlan_issued
      (s := { s with flightPlan := some _ }) hnone hsubmission
    exact not_quiescent hstate hissued (by rw [hkind]; trivial) hticket hquiet
  next => cases hplan

theorem monitored_of_callback {request : Request} {reply : Reply}
    (hstate : s.state = .inactive) (h : s.Dormant)
    (hcallback : s.callback request reply = some s')
    (hflight : (reportedFlight request reply).isSome) (hquiet : s'.Quiescent) :
    s.trafficMonitor.isSome ∧ s.encryptionKey.isSome := by
  unfold reportedFlight at hflight
  split at hflight
  · cases hcallback
    exact monitored_of_quiescent hstate h.monitoring h.communications hquiet
  · cases hcallback
    exact monitored_of_quiescent (s := s.access _ _) hstate h.monitoring
      h.communications hquiet
  · cases hflight

/-- An inactive submitter that is still quiet after an answer was told nothing
that it had to act upon. -/
theorem keepsQuiet_of_quiescent {i : ℕ} {ticket : Ticket} {reply : Reply}
    {s₁ : TelemetrySubmitter} (hdormant : s.state = .inactive → s.Dormant)
    (hticket : s.client.outstanding[i]? = some ticket)
    (habsorbs : Absorbs (s.answered i ticket reply) ticket.request reply s₁)
    (hcallback :
      (s.answered i ticket reply).callback ticket.request reply = some s')
    (hquiet : s'.Quiescent) : s.KeepsQuiet (.answer i reply) := by
  intro ticket' hticket' hstate
  rw [hticket, Option.mem_some_iff] at hticket'
  subst hticket'
  have h : (s.answered i ticket reply).Dormant := by
    have hbefore := hdormant hstate
    exact ⟨hbefore.submission, hbefore.monitoring, hbefore.communications,
      hbefore.plan, hbefore.flight⟩
  refine ⟨?_, ?_, ?_⟩
  · intro hreaches hdue
    obtain ⟨created, hissued, hkind, hcreated⟩ := requestCreateFlightPlan_issued
      ((habsorbs.creationDue_iff hreaches).mpr hdue)
    rw [← callback_of_reachesCreation habsorbs hcallback hreaches] at hissued
    exact not_quiescent hstate hissued (by rw [hkind]; trivial)
      (hcreated.trans habsorbs.state) hquiet
  · exact fun hplan => flight_of_quiescent (s := s.answered i ticket reply)
      hstate h.submission hcallback hplan hquiet
  · exact fun hflight => monitored_of_callback (s := s.answered i ticket reply)
      hstate h hcallback hflight hquiet

/-- The entries of a chain of an active submitter are quiet. -/
theorem Entry.quiet_of_active {v : Stored} {entry : Entry}
    (hstate : v.state = .active) (h : v.Permits entry) : Entry.Quiet entry := by
  cases entry with
  | issued => exact fun _ => h.1.trans hstate
  | _ => trivial

theorem Entry.quiet_of_isNote {entry : Entry} (h : Entry.isNote entry) :
    Entry.Quiet entry := by
  cases entry with
  | issued => exact h.elim
  | _ => trivial

/-- The entries of a dormant submitter that are not of a creation are quiet. -/
theorem Entry.quiet_of_dormant {entry : Entry} (h : s.Dormant)
    (hpermits : s.stored.Permits entry) (hcreation : ¬ Entry.OfCreation entry) :
    Entry.Quiet entry := by
  cases entry with
  | issued =>
      exact fun hintrudes => absurd (h.not_due hpermits.2.2 hintrudes) hcreation
  | _ => trivial

/-- A chain of an active submitter keeps the quiet. -/
theorem chain_quiescent (hchain : Chain s s') (hstate : s.state = .active)
    (h : s.Quiescent) : s'.Quiescent :=
  (chain_extends hchain).history.forall h fun _ => Entry.quiet_of_active hstate

/-- The chain after an answer that keeps the quiet creates nothing. -/
theorem answer_without_creation {i : ℕ} {ticket : Ticket} {reply : Reply}
    {s₁ : TelemetrySubmitter} (hknown : s.EndsKnown)
    (hstate : s.state = .inactive)
    (hticket : s.client.outstanding[i]? = some ticket)
    (habsorbs : Absorbs (s.answered i ticket reply) ticket.request reply s₁)
    (hchain : Chain s₁ s')
    (hcallback :
      (s.answered i ticket reply).callback ticket.request reply = some s')
    (hkeeps : s.KeepsQuiet (.answer i reply)) :
    Adds (fun entry => s₁.stored.Permits entry ∧ ¬ Entry.OfCreation entry)
      s₁ s' := by
  by_cases hreaches : s.AnswerReachesCreation ticket.request reply
  · apply chain_without_due hchain
    intro hdue
    have hbefore : (s.answered i ticket reply).CreationDue :=
      (habsorbs.creationDue_iff hreaches).mp hdue
    exact (hkeeps ticket hticket hstate).1 hreaches hbefore
  · apply chain_without_creation hchain
    exact callback_createFlightPlanRequested habsorbs
      (hknown ticket (List.mem_of_getElem? hticket)) hcallback hreaches

/-- An answer keeps the quiet exactly when it meets the condition. -/
theorem answer_quiescent_iff {i : ℕ} {ticket : Ticket} {reply : Reply}
    {s₁ : TelemetrySubmitter} (hknown : s.EndsKnown)
    (hdormant : s.state = .inactive → s.Dormant) (h : s.Quiescent)
    (hticket : s.client.outstanding[i]? = some ticket)
    (habsorbs : Absorbs (s.answered i ticket reply) ticket.request reply s₁)
    (hchain : Chain s₁ s')
    (hcallback :
      (s.answered i ticket reply).callback ticket.request reply = some s') :
    s'.Quiescent ↔ s.KeepsQuiet (.answer i reply) := by
  refine ⟨keepsQuiet_of_quiescent hdormant hticket habsorbs hcallback, ?_⟩
  intro hkeeps
  have hanswered : (s.answered i ticket reply).Quiescent := by
    intro entry hentry
    rcases List.mem_cons.mp hentry with rfl | hold
    · trivial
    · exact h entry hold
  have hstored : s₁.Quiescent :=
    habsorbs.history.forall hanswered fun _ => Entry.quiet_of_isNote
  cases hstate : s.state with
  | active => exact chain_quiescent hchain (habsorbs.state.trans hstate) hstored
  | inactive =>
      have hcondition := hkeeps ticket hticket hstate
      have hdormant₁ : s₁.Dormant := by
        have hbefore := hdormant hstate
        exact habsorbs.dormant ⟨hbefore.submission, hbefore.monitoring,
          hbefore.communications, hbefore.plan, hbefore.flight⟩
          hcondition.2.1 hcondition.2.2
      exact (answer_without_creation hknown hstate hticket habsorbs hchain
        hcallback hkeeps).forall hstored
        fun _ hentry => Entry.quiet_of_dormant hdormant₁ hentry.1 hentry.2

/-! ## Runs -/

theorem quiescent_of_history (h : s.Quiescent)
    (hhistory : s'.client.history = s.client.history) : s'.Quiescent := by
  rw [Quiescent]
  rw [hhistory]
  exact h

theorem Step.quiescent_iff {event : Event} (hstep : Step s event s')
    (hknown : s.EndsKnown) (hdormant : s.state = .inactive → s.Dormant)
    (h : s.Quiescent) : s'.Quiescent ↔ s.KeepsQuiet event := by
  cases hstep with
  | activate hchain =>
      refine iff_of_true (chain_quiescent hchain rfl ?_) trivial
      exact quiescent_of_history h (enterActive_history s)
  | deactivateInactive => exact iff_of_true h trivial
  | deactivateEnding =>
      refine iff_of_true ?_ trivial
      intro entry hentry
      rcases List.mem_cons.mp hentry with rfl | hold
      · exact fun hintrudes => hintrudes.elim
      · exact h entry hold
  | deactivate => exact iff_of_true h trivial
  | submitInactive => exact iff_of_true h trivial
  | submitUpdates =>
      refine iff_of_true ?_ trivial
      intro entry hentry
      rcases List.mem_cons.mp hentry with rfl | hold
      · trivial
      · exact h entry hold
  | submitRequesting hstate hmissing hchain =>
      exact iff_of_true (chain_quiescent hchain hstate h) trivial
  | setMissionGeometry => exact iff_of_true h trivial
  | answer hticket habsorbs hchain hcallback =>
      exact answer_quiescent_iff hknown hdormant h hticket habsorbs hchain hcallback

/-- As long as it keeps quiet, an inactive submitter is dormant. -/
theorem Step.dormant {event : Event} (hstep : Step s event s')
    (hkeeps : s.KeepsQuiet event) (h : s.state = .inactive → s.Dormant) :
    s'.state = .inactive → s'.Dormant := by
  cases hstep with
  | activate hchain =>
      intro hstate
      have hactive := congrArg Stored.state (chain_extends hchain).stored
      cases hactive.symm.trans hstate
  | deactivateInactive => exact h
  | deactivateEnding => exact fun _ => dormant_reset _
  | deactivate => exact fun _ => dormant_reset _
  | submitInactive | setMissionGeometry =>
      intro hstate
      have hbefore := h hstate
      exact ⟨hbefore.submission, hbefore.monitoring, hbefore.communications,
        hbefore.plan, hbefore.flight⟩
  | submitUpdates hactive =>
      intro hstate
      cases hactive.symm.trans hstate
  | submitRequesting hactive hmissing hchain =>
      intro hstate
      have hsame := congrArg Stored.state (chain_extends hchain).stored
      cases hactive.symm.trans (hsame.symm.trans hstate)
  | answer hticket habsorbs hchain =>
      intro hstate
      have hsame := congrArg Stored.state (chain_extends hchain).stored
      have hbefore : s.state = .inactive :=
        habsorbs.state.symm.trans (hsame.symm.trans hstate)
      have hcondition := hkeeps _ hticket hbefore
      have hdormant := h hbefore
      refine chain_dormant hchain (habsorbs.dormant ?_ hcondition.2.1 hcondition.2.2)
      exact ⟨hdormant.submission, hdormant.monitoring, hdormant.communications,
        hdormant.plan, hdormant.flight⟩

/-- An answer that cannot be delivered meets the condition. -/
theorem keepsQuiet_of_disabled {event : Event} (h : s.step event = none) :
    s.KeepsQuiet event := by
  cases event with
  | answer i reply =>
      intro ticket hticket _
      simp only [step, Option.mem_def.mp hticket] at h
      have hno : ¬ ((s.answered i ticket reply).callback ticket.request
          reply).isSome := by
        rw [h]
        exact Bool.false_ne_true
      refine ⟨fun hreaches => absurd (callback_isSome_of_reachesCreation hreaches)
        hno, fun hplan => absurd (callback_isSome_of_reportedPlan hplan) hno,
        fun hflight => ?_⟩
      obtain ⟨flight, hreports⟩ := Option.isSome_iff_exists.mp hflight
      exact absurd (callback_isSome_of_reportedFlight hreports) hno
  | _ => cases h

/-- An inactive submitter issues nothing that starts or changes something on
the server exactly in the runs whose answers all keep the quiet. -/
theorem quiescent_along_iff_keepsQuiet (credentials : Credentials)
    (aircraftId : String) (events : List Event) :
    Machine.Along step Quiescent (create credentials aircraftId) events ↔
      Machine.Meets step KeepsQuiet (create credentials aircraftId) events := by
  apply Machine.along_iff_meets fun s =>
    s.EndsKnown ∧ (s.state = .inactive → s.Dormant)
  · rintro s event s' ⟨hknown, hdormant⟩ hquiet hnext hquiet'
    have hstep := step_cases hknown hnext
    have hkeeps := (hstep.quiescent_iff hknown hdormant hquiet).mp hquiet'
    exact ⟨hstep.endsKnown hknown, hstep.dormant hkeeps hdormant⟩
  · rintro s event s' ⟨hknown, hdormant⟩ hquiet hnext
    exact (step_cases hknown hnext).quiescent_iff hknown hdormant hquiet
  · exact fun s event => keepsQuiet_of_disabled
  · refine ⟨List.forall_mem_nil _, fun _ => ⟨rfl, rfl, rfl, ?_, ?_⟩⟩
    · simp [create]
    · simp [create]
  · exact List.forall_mem_nil _

/-- The authorization that a first activation asked for arrives after its end,
and the chain goes on from there. -/
def lateAuthorizationRun : List Event :=
  [.submit ⟨350000000, -780000000, 0, 0⟩, .activate, .deactivate,
    .answer 0 (.authorization "token"), .answer 0 (.pilot "pilot"),
    .answer 0 (.flights [])]

theorem creation_issued_inactive :
    ∃ s, Machine.run step (create {} "aircraft") lateAuthorizationRun = some s ∧
      ¬ s.Quiescent :=
  Machine.exists_run (by decide)

end Airmap.Monitor.TelemetrySubmitter
