import PlatformSdk.Monitor.TelemetrySubmitter.Steps

/-!
# Flights that are forgotten while they are open

A flight that the server reported is either the current one or was asked to
end.  This holds along a run exactly as long as no report replaces an open
flight and no `deactivate` finds a flight without an authorization to end it.
-/

namespace Airmap.Monitor.TelemetrySubmitter

variable {s s' : TelemetrySubmitter}

/-- The flight that an entry reports. -/
def Entry.reported : Entry → Option Flight
  | .answered ticket reply => reportedFlight ticket.request reply
  | _ => none

/-- The entry is an `end_flight` request for the flight `id`. -/
def Entry.Ends (id : String) : Entry → Prop
  | .issued ⟨.endFlight _ id', _, _⟩ | .issued ⟨.endActiveFlight _ id', _, _⟩ =>
      id' = id
  | _ => False

instance (id : String) : DecidablePred (Entry.Ends id) := by
  intro entry
  unfold Entry.Ends
  split <;> infer_instance

/-- An `end_flight` request was issued for the flight `id`. -/
def EndIssued (s : TelemetrySubmitter) (id : String) : Prop :=
  ∃ entry ∈ s.client.history, Entry.Ends id entry

instance (id : String) : Decidable (s.EndIssued id) :=
  inferInstanceAs (Decidable (∃ _ ∈ _, _))

/-- Every reported flight is the current one or was asked to end. -/
def NoOrphan (s : TelemetrySubmitter) : Prop :=
  ∀ entry ∈ s.client.history, ∀ flight ∈ Entry.reported entry,
    s.flight.map Flight.id = some flight.id ∨ s.EndIssued flight.id

instance : DecidablePred NoOrphan := fun _ =>
  inferInstanceAs (Decidable (∀ _ ∈ _, _))

/-- The event loses no open flight: a report finds none stored, or one with its
own id, or one that was asked to end; a `deactivate` of an active submitter
that finds a flight also finds an authorization, or the flight was asked to
end. -/
def KeepsFlight (s : TelemetrySubmitter) : Event → Prop
  | .deactivate =>
      s.state = .active → ∀ flight ∈ s.flight,
        s.authorization.isSome ∨ s.EndIssued flight.id
  | event =>
      s.OnAnswer (fun ticket reply =>
        ∀ flight ∈ reportedFlight ticket.request reply, ∀ old ∈ s.flight,
          old.id = flight.id ∨ s.EndIssued old.id) event

/-- The current flight was reported. -/
def FlightReported (s : TelemetrySubmitter) : Prop :=
  ∀ flight ∈ s.flight, ∃ entry ∈ s.client.history,
    Entry.reported entry = some flight

theorem EndIssued.mono {id : String} (h : s.EndIssued id)
    (hhistory : s.client.history ⊆ s'.client.history) : s'.EndIssued id := by
  obtain ⟨entry, hentry, hends⟩ := h
  exact ⟨entry, hhistory hentry, hends⟩

theorem Entry.reported_of_isOwn {entry : Entry} (h : Entry.IsOwn entry) :
    Entry.reported entry = none := by
  cases entry with
  | answered => exact h.elim
  | _ => rfl

/-! ## The current flight was reported -/

theorem flightReported_of_eq (h : s.FlightReported)
    (hflight : s'.flight = s.flight)
    (hhistory : s.client.history ⊆ s'.client.history) : s'.FlightReported := by
  intro flight hmem
  rw [hflight] at hmem
  obtain ⟨entry, hentry, hreported⟩ := h flight hmem
  exact ⟨entry, hhistory hentry, hreported⟩

theorem Extends.flightReported (h : Extends s s') (hreported : s.FlightReported) :
    s'.FlightReported :=
  flightReported_of_eq hreported (congrArg Stored.flight h.stored)
    h.history.subset

theorem Absorbs.flightReported {i : ℕ} {ticket : Ticket} {reply : Reply}
    {s₁ : TelemetrySubmitter}
    (habsorbs : Absorbs (s.answered i ticket reply) ticket.request reply s₁)
    (h : s.FlightReported) : s₁.FlightReported := by
  rcases habsorbs.flight_cases with ⟨-, hflight⟩ | ⟨flight, hreports, hflight⟩
  · exact flightReported_of_eq h hflight habsorbs.history_subset
  · intro stored hmem
    rw [hflight, Option.mem_some_iff] at hmem
    subst hmem
    exact ⟨.answered ticket reply, habsorbs.answered_mem, hreports⟩

theorem Step.flightReported {event : Event} (hstep : Step s event s')
    (h : s.FlightReported) : s'.FlightReported := by
  cases hstep with
  | activate hchain =>
      apply (chain_extends hchain).flightReported
      exact flightReported_of_eq h rfl (by rw [enterActive_history]; exact fun _ => id)
  | deactivateInactive => exact h
  | deactivateEnding => exact fun _ hflight => nomatch hflight
  | deactivate => exact fun _ hflight => nomatch hflight
  | submitInactive => exact h
  | submitUpdates =>
      exact flightReported_of_eq h rfl (List.subset_cons_self _ _)
  | submitRequesting hstate hmissing hchain =>
      exact (chain_extends hchain).flightReported h
  | setMissionGeometry => exact h
  | answer hticket habsorbs hchain =>
      exact (chain_extends hchain).flightReported (habsorbs.flightReported h)

/-! ## What one step does to open flights -/

/-- Entries that report nothing, over an unchanged flight, orphan nothing. -/
theorem noOrphan_of_grows (h : s.NoOrphan) (hflight : s'.flight = s.flight)
    (hhistory : Machine.GrowsBy (fun entry => Entry.reported entry = none)
      s.client.history s'.client.history) : s'.NoOrphan := by
  refine hhistory.forall ?_ ?_
  · rw [hflight]
    intro entry hold flight hreported
    rcases h entry hold flight hreported with hcurrent | hended
    · exact Or.inl hcurrent
    · exact Or.inr (hended.mono hhistory.subset)
  · intro entry hquiet flight hreported
    rw [hquiet] at hreported
    cases hreported

theorem Extends.noOrphan (h : Extends s s') (horphan : s.NoOrphan) :
    s'.NoOrphan :=
  noOrphan_of_grows horphan (congrArg Stored.flight h.stored)
    (h.own.mono fun _ => Entry.reported_of_isOwn)

/-- Ending the current flight leaves no flight behind. -/
theorem noOrphan_of_endFlight {flight : Flight} (ticket : Ticket)
    (h : s.NoOrphan) (hflight : s.flight = some flight)
    (hends : Entry.Ends flight.id (.issued ticket))
    (hhistory : s'.client.history = .issued ticket :: s.client.history) :
    s'.NoOrphan := by
  intro entry hentry reported hreported
  right
  rw [hhistory, List.mem_cons] at hentry
  rcases hentry with rfl | hold
  · cases hreported
  · rcases h entry hold reported hreported with hcurrent | hended
    · rw [hflight, Option.map_some, Option.some.injEq] at hcurrent
      rw [← hcurrent]
      exact ⟨_, by rw [hhistory]; exact List.mem_cons_self, hends⟩
    · apply hended.mono
      rw [hhistory]
      exact List.subset_cons_self _ _

/-- Forgetting the current flight is harmless exactly when it was asked to
end. -/
theorem noOrphan_forget_iff (h : s.NoOrphan) (hreported : s.FlightReported)
    (hflight : s'.flight = none)
    (hhistory : s'.client.history = s.client.history) :
    s'.NoOrphan ↔ ∀ flight ∈ s.flight, s.EndIssued flight.id := by
  have hsame : ∀ id, s'.EndIssued id ↔ s.EndIssued id := by
    intro id
    simp only [EndIssued, hhistory]
  constructor
  · intro hnext flight hmem
    obtain ⟨entry, hentry, hreports⟩ := hreported flight hmem
    rw [← hhistory] at hentry
    rcases hnext entry hentry flight hreports with hcurrent | hended
    · simp [hflight] at hcurrent
    · exact (hsame _).mp hended
  · intro hended entry hentry flight hreports
    right
    rw [hhistory] at hentry
    rw [hsame]
    rcases h entry hentry flight hreports with hcurrent | hissued
    · obtain ⟨old, hold, hid⟩ := Option.map_eq_some_iff.mp hcurrent
      rw [← hid]
      exact hended old hold
    · exact hissued

/-! ## A report ends no flight -/

theorem endIssued_issue {request : Request} {id : String} :
    (s.issue request).EndIssued id ↔
      Entry.Ends id (.issued ⟨request, s.client.activations, s.state⟩) ∨
        s.EndIssued id := by
  simp [EndIssued, issue, Client.issue]

theorem endIssued_record (entry : Entry) {id : String}
    (hquiet : ¬ Entry.Ends id entry) :
    (s.record entry).EndIssued id ↔ s.EndIssued id := by
  simp [EndIssued, record, Client.record, hquiet]

theorem endIssued_access {what : Access} {ok : Bool} {id : String} :
    (s.access what ok).EndIssued id ↔ s.EndIssued id := by
  cases ok with
  | true => rfl
  | false => exact endIssued_record (.undefined what) not_false

theorem requestStartFlightComms_endIssued {id : String} :
    s.requestStartFlightComms.EndIssued id ↔ s.EndIssued id := by
  rw [requestStartFlightComms]
  split
  · rfl
  · split
    · rfl
    · simp only [issueStartFlightComms, endIssued_issue, endIssued_access,
        Entry.Ends, false_or]
      rfl

theorem requestMonitorTraffic_endIssued {id : String} :
    s.requestMonitorTraffic.EndIssued id ↔ s.EndIssued id := by
  rw [requestMonitorTraffic]
  split
  · exact endIssued_record (s := { s with trafficMonitor := _ }) _ not_false
  · split
    · rfl
    · simp only [issueMonitorTraffic, endIssued_issue, endIssued_access,
        Entry.Ends, false_or]
      rfl

theorem handleRequestSubmitFlightPlanFinished_endIssued {flight : Flight}
    {id : String} :
    (s.handleRequestSubmitFlightPlanFinished flight).EndIssued id ↔
      s.EndIssued id := by
  simp only [handleRequestSubmitFlightPlanFinished,
    requestStartFlightComms_endIssued, requestMonitorTraffic_endIssued]
  rfl

/-- The callback of a report issues no request to end a flight. -/
theorem callback_endIssued {request : Request} {reply : Reply}
    {flight : Flight} {id : String}
    (hreports : reportedFlight request reply = some flight)
    (hcallback : s.callback request reply = some s') :
    s'.EndIssued id ↔ s.EndIssued id := by
  unfold reportedFlight at hreports
  split at hreports
  · cases hcallback
    exact handleRequestSubmitFlightPlanFinished_endIssued
  · cases hcallback
    exact handleRequestSubmitFlightPlanFinished_endIssued.trans
      endIssued_access
  · cases hreports

/-! ## Reports and orphans -/

theorem endIssued_answered {i : ℕ} {ticket : Ticket} {reply : Reply}
    {id : String} :
    (s.answered i ticket reply).EndIssued id ↔ s.EndIssued id := by
  simp [EndIssued, answered, Client.answer, Entry.Ends]

/-- A report orphans no flight if the one it replaces is the same or was asked
to end. -/
theorem Absorbs.noOrphan_report {i : ℕ} {ticket : Ticket} {reply : Reply}
    {s₁ : TelemetrySubmitter} {flight : Flight}
    (habsorbs : Absorbs (s.answered i ticket reply) ticket.request reply s₁)
    (h : s.NoOrphan) (hreports : reportedFlight ticket.request reply = some flight)
    (hflight : s₁.flight = some flight)
    (hkeeps : ∀ old ∈ s.flight, old.id = flight.id ∨ s.EndIssued old.id) :
    s₁.NoOrphan := by
  have hsubset := habsorbs.history_subset
  refine habsorbs.own.forall ?_ ?_
  · intro entry hentry reported hreported
    rcases List.mem_cons.mp hentry with rfl | hold
    · left
      have hsame : reportedFlight ticket.request reply = some reported := hreported
      rw [hreports] at hsame
      rw [hflight, hsame, Option.map_some]
    · rcases h entry hold reported hreported with hcurrent | hended
      · obtain ⟨old, hmem, hid⟩ := Option.map_eq_some_iff.mp hcurrent
        rw [← hid, hflight, Option.map_some]
        rcases hkeeps old hmem with hsame | hended
        · exact Or.inl (by rw [hsame])
        · exact Or.inr (hended.mono hsubset)
      · exact Or.inr (hended.mono hsubset)
  · intro entry hown reported hreported
    rw [Entry.reported_of_isOwn hown] at hreported
    cases hreported

/-- A report that orphans no flight replaces none that is open. -/
theorem keepsFlight_of_noOrphan {i : ℕ} {ticket : Ticket} {reply : Reply}
    {s₁ : TelemetrySubmitter} {flight old : Flight}
    (habsorbs : Absorbs (s.answered i ticket reply) ticket.request reply s₁)
    (hchain : Chain s₁ s')
    (hcallback :
      (s.answered i ticket reply).callback ticket.request reply = some s')
    (hreported : s.FlightReported) (hnext : s'.NoOrphan)
    (hreports : reportedFlight ticket.request reply = some flight)
    (hflight : s₁.flight = some flight) (hold : old ∈ s.flight) :
    old.id = flight.id ∨ s.EndIssued old.id := by
  have hextends := chain_extends hchain
  obtain ⟨entry, hentry, holdReported⟩ := hreported old hold
  have hentry' : entry ∈ s'.client.history := hextends.history.subset
    (habsorbs.history_subset hentry)
  rcases hnext entry hentry' old holdReported with hcurrent | hended
  · left
    have hstays : s'.flight = s₁.flight := congrArg Stored.flight hextends.stored
    rw [hstays, hflight, Option.map_some, Option.some.injEq] at hcurrent
    exact hcurrent.symm
  · right
    exact endIssued_answered.mp ((callback_endIssued hreports hcallback).mp hended)

/-- An answer leaves no open flight behind exactly when its report replaces
none. -/
theorem answer_noOrphan_iff {i : ℕ} {ticket : Ticket} {reply : Reply}
    {s₁ : TelemetrySubmitter} (h : s.NoOrphan) (hreported : s.FlightReported)
    (hticket : s.client.outstanding[i]? = some ticket)
    (habsorbs : Absorbs (s.answered i ticket reply) ticket.request reply s₁)
    (hchain : Chain s₁ s')
    (hcallback :
      (s.answered i ticket reply).callback ticket.request reply = some s') :
    s'.NoOrphan ↔ s.KeepsFlight (.answer i reply) := by
  have hextends := chain_extends hchain
  have hkeepsFlight : s.KeepsFlight (.answer i reply) ↔
      ∀ flight ∈ reportedFlight ticket.request reply, ∀ old ∈ s.flight,
        old.id = flight.id ∨ s.EndIssued old.id := by
    simp only [KeepsFlight, OnAnswer, hticket, Option.mem_some_iff, forall_eq']
  rw [hkeepsFlight]
  rcases habsorbs.flight_cases with ⟨hreports, hflight⟩ | ⟨flight, hreports, hflight⟩
  · rw [hreports]
    refine iff_of_true (by simp) (hextends.noOrphan ?_) |>.symm
    have hanswered : Machine.GrowsBy (fun entry => Entry.reported entry = none)
        s.client.history (s.answered i ticket reply).client.history :=
      (Machine.GrowsBy.refl _).cons hreports
    have hown := habsorbs.own.mono fun _ => Entry.reported_of_isOwn
    exact noOrphan_of_grows h hflight (hanswered.trans hown)
  · rw [hreports]
    simp only [Option.mem_some_iff, forall_eq']
    constructor
    · intro hnext old hold
      exact keepsFlight_of_noOrphan habsorbs hchain hcallback hreported hnext
        hreports hflight hold
    · intro hkeeps
      exact hextends.noOrphan (habsorbs.noOrphan_report h hreports hflight hkeeps)

/-- One step leaves no open flight behind exactly when it loses none. -/
theorem Step.noOrphan_iff {event : Event} (hstep : Step s event s')
    (h : s.NoOrphan) (hreported : s.FlightReported) :
    s'.NoOrphan ↔ s.KeepsFlight event := by
  cases hstep with
  | activate hchain =>
      refine iff_of_true ((chain_extends hchain).noOrphan ?_) trivial
      refine noOrphan_of_grows h rfl ?_
      rw [enterActive_history]
      exact .refl _
  | deactivateInactive hstate =>
      refine iff_of_true h ?_
      intro hactive
      rw [hstate] at hactive
      cases hactive
  | deactivateEnding hstate hauthorization hflight =>
      refine iff_of_true ?_ fun _ _ _ => Or.inl (by rw [hauthorization]; rfl)
      exact noOrphan_of_endFlight ⟨.endFlight _ _, _, _⟩ h hflight
        rfl rfl
  | deactivate hstate hnothing =>
      refine Iff.trans (noOrphan_forget_iff h hreported rfl rfl) ?_
      constructor
      · intro hended _ flight hmem
        exact Or.inr (hended flight hmem)
      · intro hkeeps flight hmem
        rcases hkeeps hstate flight hmem with hauthorization | hended
        · rcases hnothing with hnone | hnone
          · simp [hnone] at hauthorization
          · simp [hnone] at hmem
        · exact hended
  | submitInactive => exact iff_of_true h trivial
  | submitUpdates =>
      exact iff_of_true
        (noOrphan_of_grows h rfl ((Machine.GrowsBy.refl _).cons rfl)) trivial
  | submitRequesting hstate hmissing hchain =>
      exact iff_of_true ((chain_extends hchain).noOrphan h) trivial
  | setMissionGeometry => exact iff_of_true h trivial
  | answer hticket habsorbs hchain hcallback =>
      exact answer_noOrphan_iff h hreported hticket habsorbs hchain hcallback

/-- A report that cannot be delivered meets the condition. -/
theorem keepsFlight_of_disabled {event : Event} (h : s.step event = none) :
    s.KeepsFlight event := by
  cases event with
  | answer i reply =>
      intro ticket hticket flight hreports
      simp only [step, Option.mem_def.mp hticket] at h
      have hsome := callback_isSome_of_reportedFlight
        (s := s.answered i ticket reply) hreports
      rw [h] at hsome
      cases hsome
  | _ => cases h

/-- No reported flight is forgotten while it is open exactly in the runs whose
steps all keep the flight they find. -/
theorem noOrphan_along_iff_keepsFlight (credentials : Credentials)
    (aircraftId : String) (events : List Event) :
    Machine.Along step NoOrphan (create credentials aircraftId) events ↔
      Machine.Meets step KeepsFlight (create credentials aircraftId) events := by
  apply Machine.along_iff_meets fun s => s.EndsKnown ∧ s.FlightReported
  · rintro s event s' ⟨hknown, hreported⟩ - hnext -
    have hstep := step_cases hknown hnext
    exact ⟨hstep.endsKnown hknown, hstep.flightReported hreported⟩
  · rintro s event s' ⟨hknown, hreported⟩ horphan hnext
    exact (step_cases hknown hnext).noOrphan_iff horphan hreported
  · exact fun s event => keepsFlight_of_disabled
  · exact ⟨List.forall_mem_nil _, by simp [FlightReported, create]⟩
  · exact List.forall_mem_nil _

/-- The creation of a first activation succeeds after that of the second one
was asked for, and both write the same member. -/
def twoCreationsRun : List Event :=
  [.submit ⟨350000000, -780000000, 0, 0⟩, .activate,
    .answer 0 (.authorization "token"), .answer 0 (.pilot "pilot"),
    .answer 0 (.flights []), .deactivate, .activate,
    .answer 1 (.authorization "token"), .answer 1 (.pilot "pilot"),
    .answer 0 (.flight { id := "first" }), .answer 0 (.flight { id := "second" })]

theorem reported_flight_orphaned :
    ∃ s, Machine.run step (create {} "aircraft") twoCreationsRun = some s ∧
      ¬ s.NoOrphan :=
  Machine.exists_run (by decide)

end Airmap.Monitor.TelemetrySubmitter
