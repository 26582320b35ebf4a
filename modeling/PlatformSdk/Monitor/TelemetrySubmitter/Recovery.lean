import PlatformSdk.Monitor.TelemetrySubmitter.SingleFlight

/-!
# What a raised flag stands for

Without a `deactivate`, a flag that is up stands for a request that waits or for
a value that an answer brought.  Two steps are exceptions: a creation that is
come to without a position raises its flag and issues nothing, and a failed
start of the flight communications is issued again only under a flight plan.
-/

namespace Airmap.Monitor

/-- The request ends the active flight with this id. -/
def Request.endsActive (id : String) : Request → Bool
  | .endActiveFlight _ id' => id' == id
  | _ => false

namespace TelemetrySubmitter

variable {s s' : TelemetrySubmitter}

/-- The creation is only come to with a position; `submit` brings its own. -/
def CreatesWithPosition (s : TelemetrySubmitter) : Event → Prop
  | .submit _ => True
  | event => s.ReachesCreation event → s.currentPosition.isSome

instance (s : TelemetrySubmitter) : DecidablePred s.CreatesWithPosition
  | .submit _ => inferInstanceAs (Decidable True)
  | .activate | .deactivate | .setMissionGeometry _ | .answer _ _ =>
      inferInstanceAs (Decidable (_ → _))

/-- The start of the flight communications only fails under a flight plan. -/
def CommsFailUnderPlan (s : TelemetrySubmitter) : Event → Prop :=
  s.OnAnswer fun ticket reply =>
    ticket.request.kind = .communications → reply.isSuccess = false →
      s.flightPlan.isSome

instance (s : TelemetrySubmitter) (event : Event) :
    Decidable (s.CommsFailUnderPlan event) :=
  inferInstanceAs (Decidable (s.OnAnswer _ event))

/-! ## Flags and requests -/

theorem Absorbs.currentPosition {request : Request} {reply : Reply}
    (h : Absorbs s request reply s') : s'.currentPosition = s.currentPosition := by
  cases h with
  | _ => rfl

/-- An answer that comes to the creation only with a position keeps a request
for each raised flag. -/
theorem answer_kept {i : ℕ} {ticket : Ticket} {reply : Reply}
    {s₁ : TelemetrySubmitter} (hknown : s.EndsKnown)
    (hposition : s.CreatesWithPosition (.answer i reply))
    (hticket : s.client.outstanding[i]? = some ticket)
    (habsorbs : Absorbs (s.answered i ticket reply) ticket.request reply s₁)
    (hchain : Chain s₁ s')
    (hcallback :
      (s.answered i ticket reply).callback ticket.request reply = some s')
    {kind : Request.Kind} (hkind : Request.Kind.IsSingle kind)
    (h : (s.slot kind).Kept) : (s'.slot kind).Kept := by
  apply chain_kept hchain hkind
  · rintro ⟨-, hnone⟩
    apply callback_createFlightPlanRequested habsorbs
      (hknown ticket (List.mem_of_getElem? hticket)) hcallback
    intro hreaches
    have hsome : s.currentPosition.isSome := hposition ⟨ticket, hticket, hreaches⟩
    have hsame : s₁.currentPosition = s.currentPosition := habsorbs.currentPosition
    rw [← hsame, hnone] at hsome
    cases hsome
  · rcases habsorbs.slot hticket kind with hsame | hmove
    · rw [hsame]
      exact h
    · exact hmove.kept not_false h

/-- In a run without `deactivate` and without silent creations, a raised flag
stands for a request. -/
theorem Step.kept {event : Event} (hstep : Step s event s') (hknown : s.EndsKnown)
    (hevent : event ≠ .deactivate) (hposition : s.CreatesWithPosition event)
    {kind : Request.Kind} (hkind : Request.Kind.IsSingle kind)
    (h : (s.slot kind).Kept) : (s'.slot kind).Kept := by
  cases hstep with
  | activate hchain =>
      apply chain_kept hchain hkind
      · rintro ⟨-, hnone⟩
        apply requestAuthorization_createFlightPlanRequested
        intro hready
        have hsome : s.currentPosition.isSome := hposition hready
        have hsame : s.currentPosition = none := hnone
        rw [hsame] at hsome
        cases hsome
      · rw [enterActive_slot]
        exact h
  | deactivateInactive | deactivateEnding | deactivate => exact absurd rfl hevent
  | submitInactive => exact h
  | submitUpdates =>
      rw [submitUpdates_slot]
      exact h
  | submitRequesting hstate hmissing hchain =>
      apply chain_kept hchain hkind
      · rintro ⟨-, hnone⟩
        cases hnone
      · exact h
  | setMissionGeometry => exact h
  | answer hticket habsorbs hchain hcallback =>
      exact answer_kept hknown hposition hticket habsorbs hchain hcallback hkind h

/-! ## Values and successful requests -/

/-- What a successful request of this kind brings is stored. -/
def Stored.Has (v : Stored) : Request.Kind → Prop
  | .authentication => v.authorization.isSome
  | .pilot => v.pilotId.isSome
  | .search => v.activeFlights.isSome
  | .creation => v.flightPlan.isSome ∨ v.flight.isSome
  | .submission => v.flight.isSome
  | .monitoring => v.trafficMonitor.isSome
  | .communications => v.encryptionKey.isSome
  | .endActiveFlight | .endFlight => True

/-- No answer takes a value away. -/
theorem Absorbs.has {request : Request} {reply : Reply}
    (h : Absorbs s request reply s') (kind : Request.Kind)
    (hhas : s.stored.Has kind) : s'.stored.Has kind := by
  cases h with
  | authorization | pilotId | activeFlights | trafficMonitor | encryptionKey =>
      cases kind <;> first | exact hhas | rfl
  | endActiveFlight =>
      cases kind with
      | search =>
          have hknown : s.activeFlights.isSome := hhas
          simpa [Stored.Has, stored] using hknown
      | _ => exact hhas
  | flightPlan =>
      cases kind <;> first | exact hhas | exact Or.inl rfl
  | flightByPoint | submitted =>
      cases kind <;> first | exact hhas | rfl | exact Or.inr rfl
  | _ => exact hhas

/-- A successful answer stores its value. -/
theorem Absorbs.has_kind {request : Request} {reply : Reply}
    (h : Absorbs s request reply s') (hsuccess : reply.isSuccess = true) :
    s'.stored.Has request.kind := by
  cases h with
  | authorization hkind =>
      rw [hkind]
      rfl
  | flightPlan => exact Or.inl rfl
  | flightByPoint => exact Or.inr rfl
  | endActiveFlight | endFlight => trivial
  | pilotId | activeFlights | submitted | trafficMonitor | encryptionKey => rfl
  | _ => cases hsuccess

/-- Every kind of request that succeeded left its value. -/
def KeepsValues (s : TelemetrySubmitter) : Prop :=
  ∀ kind, 1 ≤ s.client.history.countP (Entry.succeeds kind) → s.stored.Has kind

theorem chain_keepsValues (hchain : Chain s s') (h : s.KeepsValues) :
    s'.KeepsValues := by
  have hextends := chain_extends hchain
  intro kind hsucceeded
  rw [hextends.stored]
  rw [hextends.succeeded] at hsucceeded
  exact h kind hsucceeded

theorem Absorbs.keepsValues {i : ℕ} {ticket : Ticket} {reply : Reply}
    {s₁ : TelemetrySubmitter}
    (habsorbs : Absorbs (s.answered i ticket reply) ticket.request reply s₁)
    (h : s.KeepsValues) : s₁.KeepsValues := by
  intro kind hsucceeded
  rw [habsorbs.succeeded] at hsucceeded
  simp only [answered, Client.answer, List.countP_cons] at hsucceeded
  by_cases hthis : Entry.succeeds kind (.answered ticket reply) = true
  · obtain ⟨hkind, hsuccess⟩ := Bool.and_eq_true_iff.mp hthis
    rw [← of_decide_eq_true hkind]
    exact habsorbs.has_kind hsuccess
  · rw [if_neg hthis] at hsucceeded
    exact habsorbs.has kind (h kind hsucceeded)

theorem Step.keepsValues {event : Event} (hstep : Step s event s')
    (hevent : event ≠ .deactivate) (h : s.KeepsValues) : s'.KeepsValues := by
  cases hstep with
  | activate hchain =>
      apply chain_keepsValues hchain
      intro kind hsucceeded
      rw [enterActive_history] at hsucceeded
      have hhas := h kind hsucceeded
      cases kind <;> exact hhas
  | deactivateInactive | deactivateEnding | deactivate => exact absurd rfl hevent
  | submitInactive | submitUpdates | setMissionGeometry =>
      intro kind hsucceeded
      have hhas := h kind hsucceeded
      cases kind <;> exact hhas
  | submitRequesting hstate hmissing hchain =>
      apply chain_keepsValues hchain
      intro kind hsucceeded
      have hhas := h kind hsucceeded
      cases kind <;> exact hhas
  | answer hticket habsorbs hchain =>
      exact chain_keepsValues hchain (habsorbs.keepsValues h)

/-! ## Flights and the requests that end them -/

/-- How many requests wait that end an active flight with this id. -/
def endsPending (s : TelemetrySubmitter) (id : String) : ℕ :=
  s.client.outstanding.countP fun ticket => Request.endsActive id ticket.request

/-- While the flag of the clean-up is up, a request of its own waits for each
flight that is still to be ended. -/
structure Ending (s : TelemetrySubmitter) : Prop where
  known : s.endActiveFlightsRequested = true → s.activeFlights.isSome
  pending : s.endActiveFlightsRequested = true →
    ∀ flights ∈ s.activeFlights, ∀ id,
      flights.countP (fun flight => flight.id == id) ≤ s.endsPending id

theorem ending_of_low (h : s.endActiveFlightsRequested = false) : s.Ending where
  known := by simp [h]
  pending := by simp [h]

theorem ending_of_eq (h : s.Ending)
    (hflag : s'.endActiveFlightsRequested = s.endActiveFlightsRequested)
    (hflights : s'.activeFlights = s.activeFlights)
    (hpending : ∀ id, s.endsPending id ≤ s'.endsPending id) : s'.Ending where
  known := by
    rw [hflag, hflights]
    exact h.known
  pending := by
    rw [hflag, hflights]
    intro hraised flights hmem id
    exact (h.pending hraised flights hmem id).trans (hpending id)

theorem countP_map_endTicket (s : TelemetrySubmitter) (flights : List Flight)
    (id : String) :
    (flights.map s.endTicket).countP
        (fun ticket => Request.endsActive id ticket.request) =
      flights.countP (fun flight => flight.id == id) := by
  rw [List.countP_map]
  rfl

theorem Action.ending (h : Action s s') (hending : s.Ending) : s'.Ending := by
  have hflights : s'.activeFlights = s.activeFlights :=
    congrArg Stored.activeFlights h.extends.stored
  have hpending : ∀ id, s.endsPending id ≤ s'.endsPending id := by
    intro id
    obtain ⟨tickets, houtstanding, -⟩ := h.extends.outstanding
    simp only [endsPending, houtstanding, List.countP_append]
    exact Nat.le_add_right _ _
  rcases h.issues with ⟨kind, hissues⟩ | ⟨monitor, rfl⟩
  · have hrequested := hissues.requested .endActiveFlight
    by_cases hkind : kind = .endActiveFlight
    · obtain ⟨flights, hsome, hloop⟩ := hissues.cleanUp hkind
      refine ⟨fun _ => by rw [hflights, hsome]; rfl, fun _ => ?_⟩
      rw [hflights, hsome]
      intro found hfound id
      cases hfound
      simp only [endsPending, hloop, List.countP_append, countP_map_endTicket]
      exact Nat.le_add_left _ _
    · have hflag : s'.endActiveFlightsRequested = s.endActiveFlightsRequested := by
        simpa [requested, Ne.symm hkind] using hrequested
      exact ending_of_eq hending hflag hflights hpending
  · exact ending_of_eq hending rfl rfl fun _ => le_rfl

theorem chain_ending (hchain : Chain s s') (h : s.Ending) : s'.Ending := by
  induction hchain with
  | refl => exact h
  | tail _ haction ih => exact haction.ending ih

/-- Only the answer to a clean-up request takes one of these requests away. -/
theorem endsPending_of_answer {i : ℕ} {ticket : Ticket}
    (hticket : s.client.outstanding[i]? = some ticket)
    (hrest : s'.client.outstanding = s.client.outstanding.eraseIdx i)
    (id : String) :
    s.endsPending id =
      s'.endsPending id + if Request.endsActive id ticket.request then 1 else 0 := by
  unfold endsPending
  rw [hrest]
  exact Machine.countP_eraseIdx hticket

theorem endsActive_eq_false {request : Request}
    (hkind : request.kind ≠ .endActiveFlight) (id : String) :
    Request.endsActive id request = false := by
  cases request with
  | endActiveFlight => exact absurd rfl hkind
  | _ => rfl

/-- The answer to a clean-up request takes away the request and its flight. -/
theorem ending_of_ended {i : ℕ} {ticket : Ticket} {authorization id : String}
    (h : s.Ending) (hticket : s.client.outstanding[i]? = some ticket)
    (hrequest : ticket.request = .endActiveFlight authorization id)
    (hrest : s'.client.outstanding = s.client.outstanding.eraseIdx i)
    (hflag : s'.endActiveFlightsRequested = s.endActiveFlightsRequested)
    (hflights : s'.activeFlights = s.activeFlights.map (eraseFlight id)) :
    s'.Ending where
  known := by
    rw [hflag, hflights, Option.isSome_map]
    exact h.known
  pending := by
    rw [hflag, hflights]
    intro hraised left hleft other
    obtain ⟨flights, hmem, rfl⟩ := Option.map_eq_some_iff.mp hleft
    have hbefore := h.pending hraised flights hmem other
    have hpending := endsPending_of_answer hticket hrest other
    rw [hrequest] at hpending
    by_cases hid : id = other
    · subst hid
      rw [eraseFlight, Machine.countP_eraseP]
      simp only [Request.endsActive, BEq.rfl, if_true] at hpending
      omega
    · have hfewer := List.Sublist.countP_le (p := fun flight => flight.id == other)
        (List.eraseP_sublist (p := fun flight : Flight => flight.id == id)
          (l := flights))
      simp only [Request.endsActive, beq_iff_eq, hid, if_false] at hpending
      exact hfewer.trans (hbefore.trans hpending.le)

/-- What an answer stores leaves a request for each flight to be ended. -/
theorem Absorbs.ending {i : ℕ} {ticket : Ticket} {reply : Reply}
    {s₁ : TelemetrySubmitter} (hslot : (s.slot .search).Single)
    (hcleaning : s.CleaningUp) (h : s.Ending)
    (hticket : s.client.outstanding[i]? = some ticket)
    (habsorbs : Absorbs (s.answered i ticket reply) ticket.request reply s₁) :
    s₁.Ending := by
  have hrest : s₁.client.outstanding = s.client.outstanding.eraseIdx i :=
    habsorbs.outstanding
  have hflag : s₁.endActiveFlightsRequested = (s.endActiveFlightsRequested &&
      (reply.isSuccess || decide (ticket.request.kind ≠ .endActiveFlight))) :=
    habsorbs.requested .endActiveFlight
  rcases habsorbs.activeFlights_cases with ⟨-, hflights, hfails⟩ |
    ⟨pilotId, flights, hsearch, -, -⟩ |
    ⟨authorization, id, hend, rfl, hflights⟩
  · by_cases hkind : ticket.request.kind = .endActiveFlight
    · apply ending_of_low
      simp [hflag, hfails hkind, hkind]
    · refine ending_of_eq h (by simp [hflag, hkind]) hflights fun id => ?_
      have hpending := endsPending_of_answer hticket hrest id
      rw [endsActive_eq_false hkind] at hpending
      exact hpending.le
  · -- The first search is answered, so there was nothing to be ended before.
    have hkind : ticket.request.kind = .search := by rw [hsearch]; rfl
    apply ending_of_low
    by_contra hraised
    simp only [hflag, hkind, Bool.not_eq_false, Bool.and_eq_true] at hraised
    obtain ⟨entry, hentry, hfound⟩ := hcleaning.found (h.known hraised.1)
    rw [found_of_pending hslot hticket hkind hentry] at hfound
    cases hfound
  · exact ending_of_ended h hticket hend hrest (by simp [hflag, Reply.isSuccess])
      hflights

theorem Step.ending {event : Event} (hstep : Step s event s')
    (hevent : event ≠ .deactivate) (hslot : (s.slot .search).Single)
    (hcleaning : s.CleaningUp) (h : s.Ending) : s'.Ending := by
  cases hstep with
  | activate hchain =>
      apply chain_ending hchain
      refine ending_of_eq h rfl rfl fun id => ?_
      unfold enterActive Client.activate
      split <;> exact le_rfl
  | deactivateInactive | deactivateEnding | deactivate => exact absurd rfl hevent
  | submitInactive | submitUpdates | setMissionGeometry =>
      exact ending_of_eq h rfl rfl fun _ => le_rfl
  | submitRequesting hstate hmissing hchain =>
      exact chain_ending hchain (ending_of_eq h rfl rfl fun _ => le_rfl)
  | answer hticket habsorbs hchain =>
      exact chain_ending hchain (habsorbs.ending hslot hcleaning h hticket)

/-! ## Flights and their communications -/

/-- A stored flight has its key, waits for it or came with a plan. -/
def Communicates (s : TelemetrySubmitter) : Prop :=
  s.flight.isSome → s.encryptionKey.isSome ∨ s.startFlightCommsRequested = true ∨
    s.flightPlan.isSome

theorem Action.communicates (h : Action s s') (hcomms : s.Communicates) :
    s'.Communicates := by
  have hstored := h.extends.stored
  have hflight : s'.flight = s.flight := congrArg Stored.flight hstored
  have hkey : s'.encryptionKey = s.encryptionKey :=
    congrArg Stored.encryptionKey hstored
  have hplan : s'.flightPlan = s.flightPlan := congrArg Stored.flightPlan hstored
  intro hsome
  rw [hflight] at hsome
  rw [hkey, hplan]
  have hflag : s.startFlightCommsRequested = true →
      s'.startFlightCommsRequested = true := by
    intro hraised
    rcases h.issues with ⟨kind, hissues⟩ | ⟨monitor, rfl⟩
    · have hrequested := hissues.requested .communications
      simpa [requested, hraised] using hrequested
    · exact hraised
  rcases hcomms hsome with hknown | hraised | hcame
  · exact Or.inl hknown
  · exact Or.inr (Or.inl (hflag hraised))
  · exact Or.inr (Or.inr hcame)

theorem chain_communicates (hchain : Chain s s') (h : s.Communicates) :
    s'.Communicates := by
  induction hchain with
  | refl => exact h
  | tail _ haction ih => exact haction.communicates ih

theorem requestStartFlightComms_communicates (s : TelemetrySubmitter) :
    s.requestStartFlightComms.Communicates := by
  intro _
  rw [requestStartFlightComms]
  split
  · exact Or.inl rfl
  · split
    next hraised => exact Or.inr (Or.inl hraised)
    next => exact Or.inr (Or.inl rfl)

/-- The callback of a report starts the communications of the flight. -/
theorem callback_communicates {request : Request} {reply : Reply} {flight : Flight}
    (hreports : reportedFlight request reply = some flight)
    (hcallback : s.callback request reply = some s') : s'.Communicates := by
  unfold reportedFlight at hreports
  split at hreports
  · cases hcallback
    exact requestStartFlightComms_communicates _
  · cases hcallback
    exact requestStartFlightComms_communicates _
  · cases hreports

theorem Absorbs.flightPlan_isSome {request : Request} {reply : Reply}
    (h : Absorbs s request reply s') (hsome : s.flightPlan.isSome) :
    s'.flightPlan.isSome := by
  cases h with
  | flightPlan => rfl
  | _ => exact hsome

/-- What an answer stores that reports no flight. -/
theorem Absorbs.communicates {i : ℕ} {ticket : Ticket} {reply : Reply}
    {s₁ : TelemetrySubmitter} (h : s.Communicates)
    (hcond : s.CommsFailUnderPlan (.answer i reply))
    (hticket : s.client.outstanding[i]? = some ticket)
    (habsorbs : Absorbs (s.answered i ticket reply) ticket.request reply s₁)
    (hflight : s₁.flight = s.flight) : s₁.Communicates := by
  have hflag : s₁.startFlightCommsRequested = (s.startFlightCommsRequested &&
      (reply.isSuccess || decide (ticket.request.kind ≠ .communications))) :=
    habsorbs.requested .communications
  intro hsome
  rw [hflight] at hsome
  rcases h hsome with hknown | hraised | hcame
  · exact Or.inl (habsorbs.has .communications hknown)
  · by_cases hfails : ticket.request.kind = .communications ∧
        reply.isSuccess = false
    · have hplan := hcond ticket hticket hfails.1 hfails.2
      exact Or.inr (Or.inr (habsorbs.flightPlan_isSome hplan))
    · right
      left
      rw [hflag, hraised]
      by_cases hkind : ticket.request.kind = .communications
      · simpa [hkind] using hfails
      · simp [hkind]
  · exact Or.inr (Or.inr (habsorbs.flightPlan_isSome hcame))

theorem Step.communicates {event : Event} (hstep : Step s event s')
    (hevent : event ≠ .deactivate) (hcond : s.CommsFailUnderPlan event)
    (h : s.Communicates) : s'.Communicates := by
  cases hstep with
  | activate hchain => exact chain_communicates hchain h
  | deactivateInactive | deactivateEnding | deactivate => exact absurd rfl hevent
  | submitInactive | submitUpdates | setMissionGeometry => exact h
  | submitRequesting hstate hmissing hchain => exact chain_communicates hchain h
  | answer hticket habsorbs hchain hcallback =>
      rcases habsorbs.flight_cases with ⟨-, hflight⟩ | ⟨flight, hreports, -⟩
      · exact chain_communicates hchain
          (habsorbs.communicates h hcond hticket hflight)
      · exact callback_communicates hreports hcallback

end TelemetrySubmitter
end Airmap.Monitor
