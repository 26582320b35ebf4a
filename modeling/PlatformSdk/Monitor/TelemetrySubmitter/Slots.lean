import PlatformSdk.Machine.Slot
import PlatformSdk.Monitor.TelemetrySubmitter.Reach

/-!
# The flags of the submitter as slots

Each kind of request but the two that end flights is guarded by a flag of its
own.  Every step but `deactivate` moves its slot by the rules of
`Machine.Slot`, so at most one request of the kind waits or succeeded.
-/

namespace Airmap.Monitor

/-- The reply is not an error. -/
def Reply.isSuccess : Reply → Bool
  | .failure => false
  | _ => true

/-- The entry is a successful answer to a request of this kind. -/
def Entry.succeeds (kind : Request.Kind) : Entry → Bool
  | .answered ticket reply => decide (ticket.request.kind = kind) && reply.isSuccess
  | _ => false

namespace TelemetrySubmitter

variable {s s' : TelemetrySubmitter}

/-- The flag that guards the requests of a kind. -/
def requested (s : TelemetrySubmitter) : Request.Kind → Bool
  | .authentication => s.authorizationRequested
  | .pilot => s.pilotIdRequested
  | .search => s.activeFlightsRequested
  | .endActiveFlight => s.endActiveFlightsRequested
  | .creation => s.createFlightPlanRequested
  | .submission => s.submitFlightPlanRequested
  | .monitoring => s.trafficMonitoringRequested
  | .communications => s.startFlightCommsRequested
  | .endFlight => false

/-- The slot of the requests of a kind. -/
def slot (kind : Request.Kind) (s : TelemetrySubmitter) : Machine.Slot where
  requested := s.requested kind
  pending := s.client.outstanding.countP (fun ticket => ticket.request.kind = kind)
  succeeded := s.client.history.countP (Entry.succeeds kind)

/-- The flag allows one request of this kind at a time. -/
def Request.Kind.IsSingle (kind : Request.Kind) : Prop :=
  kind ≠ .endActiveFlight ∧ kind ≠ .endFlight

instance : DecidablePred Request.Kind.IsSingle := fun _ =>
  inferInstanceAs (Decidable (_ ∧ _))

/-! ## Calls -/

/-- The request that ends one of the active flights. -/
def endTicket (s : TelemetrySubmitter) (flight : Flight) : Ticket where
  request := .endActiveFlight (s.authorization.getD default) flight.id
  activation := s.client.activations
  state := s.state

/-- The call raises the flag of its kind and issues what it guards; only a
creation without a position issues nothing. -/
structure Issues (kind : Request.Kind) (s s' : TelemetrySubmitter) : Prop where
  low : s.requested kind = false
  requested : ∀ k, s'.requested k = (s.requested k || decide (k = kind))
  outstanding : ∃ tickets,
    s'.client.outstanding = s.client.outstanding ++ tickets ∧
      (∀ ticket ∈ tickets, ticket.request.kind = kind) ∧
      (kind ≠ .endActiveFlight → tickets.length = 1 ∨
        (kind = .creation ∧ s.currentPosition = none) ∧ tickets = [])
  cleanUp : kind = .endActiveFlight → ∃ flights,
    s.activeFlights = some flights ∧
      s'.client.outstanding = s.client.outstanding ++ flights.map s.endTicket

@[simp] theorem access_activations (s : TelemetrySubmitter) (what : Access)
    (ok : Bool) :
    (s.access what ok).client.activations = s.client.activations := by
  cases ok <;> rfl

@[simp] theorem access_outstanding (s : TelemetrySubmitter) (what : Access)
    (ok : Bool) :
    (s.access what ok).client.outstanding = s.client.outstanding := by
  cases ok <;> rfl

/-- A call that ends in one request issues that request alone. -/
theorem issue_outstanding {s₁ : TelemetrySubmitter} {request : Request}
    {kind : Request.Kind} {P : Prop} (hkind : request.kind = kind)
    (houtstanding : s₁.client.outstanding = s.client.outstanding) :
    ∃ tickets,
      (s₁.issue request).client.outstanding = s.client.outstanding ++ tickets ∧
        (∀ ticket ∈ tickets, ticket.request.kind = kind) ∧
        (kind ≠ .endActiveFlight → tickets.length = 1 ∨ P ∧ tickets = []) := by
  refine ⟨[⟨request, s₁.client.activations, s₁.state⟩], ?_, ?_,
    fun _ => Or.inl rfl⟩
  · rw [← houtstanding]
    rfl
  · intro ticket hticket
    rw [List.mem_singleton.mp hticket]
    exact hkind

theorem issueAuthorization_issues (hflag : s.authorizationRequested = false) :
    Issues .authentication s s.issueAuthorization where
  low := hflag
  requested := by
    obtain ⟨client, hclient⟩ := issueAuthorization_frame s
    rw [hclient]
    intro k
    cases k <;> simp [TelemetrySubmitter.requested]
  outstanding := by
    rw [issueAuthorization]
    dsimp only
    split
    · exact issue_outstanding rfl rfl
    · exact issue_outstanding rfl rfl
  cleanUp := (nomatch ·)

theorem issuePilotId_issues (hauthorization : s.authorization.isSome)
    (hflag : s.pilotIdRequested = false) : Issues .pilot s s.issuePilotId where
  low := hflag
  requested := by
    obtain ⟨client, hclient⟩ := issuePilotId_frame s
    rw [hclient]
    intro k
    cases k <;> simp [TelemetrySubmitter.requested]
  outstanding := by
    obtain ⟨authorization, hvalue⟩ := Option.isSome_iff_exists.mp hauthorization
    simp only [issuePilotId, hvalue]
    exact issue_outstanding rfl rfl
  cleanUp := (nomatch ·)

theorem issueActiveFlights_issues (hflag : s.activeFlightsRequested = false) :
    Issues .search s s.issueActiveFlights where
  low := hflag
  requested := by
    intro k
    cases k <;> simp [TelemetrySubmitter.requested, issueActiveFlights, issue]
  outstanding := issue_outstanding rfl rfl
  cleanUp := (nomatch ·)

theorem endActiveFlight_outstanding (s : TelemetrySubmitter) (flight : Flight) :
    (s.endActiveFlight flight).client.outstanding =
      s.client.outstanding ++ [s.endTicket flight] := by
  simp only [endActiveFlight, issue, Client.issue, access_outstanding,
    access_activations]
  rfl

theorem endActiveFlight_endTicket (s : TelemetrySubmitter)
    (flight other : Flight) :
    (s.endActiveFlight flight).endTicket other = s.endTicket other := by
  rw [endTicket]
  congr 1
  exact access_activations s _ _

/-- The loop of the clean-up issues one request for each flight. -/
theorem foldl_endActiveFlight_outstanding (flights : List Flight)
    (s : TelemetrySubmitter) :
    (flights.foldl endActiveFlight s).client.outstanding =
      s.client.outstanding ++ flights.map s.endTicket := by
  induction flights generalizing s with
  | nil => simp
  | cons flight flights ih =>
      have hticket : (s.endActiveFlight flight).endTicket = s.endTicket :=
        funext (endActiveFlight_endTicket s flight)
      rw [List.foldl_cons, ih, endActiveFlight_outstanding, hticket,
        List.map_cons, List.append_assoc, List.singleton_append]

theorem issueEndActiveFlights_outstanding (s : TelemetrySubmitter) :
    s.issueEndActiveFlights.client.outstanding =
      s.client.outstanding ++ (s.activeFlights.getD []).map s.endTicket := by
  have hloop := foldl_endActiveFlight_outstanding (s.activeFlights.getD default)
    ({ s with endActiveFlightsRequested := true }.access .activeFlights
      s.activeFlights.isSome)
  have hticket : ({ s with endActiveFlightsRequested := true }.access
      .activeFlights s.activeFlights.isSome).endTicket = s.endTicket := by
    funext flight
    rw [endTicket]
    congr 1
    exact access_activations _ _ _
  rw [access_outstanding, hticket] at hloop
  exact hloop

theorem issueEndActiveFlights_issues {flights : List Flight}
    (hflights : s.activeFlights = some flights)
    (hflag : s.endActiveFlightsRequested = false) :
    Issues .endActiveFlight s s.issueEndActiveFlights where
  low := hflag
  requested := by
    obtain ⟨client, hclient⟩ := issueEndActiveFlights_frame s
    rw [hclient]
    intro k
    cases k <;> simp [TelemetrySubmitter.requested]
  outstanding := by
    refine ⟨_, issueEndActiveFlights_outstanding s, ?_, fun hkind => absurd rfl hkind⟩
    intro ticket hticket
    obtain ⟨flight, -, rfl⟩ := List.mem_map.mp hticket
    rfl
  cleanUp := fun _ => by
    have hloop := issueEndActiveFlights_outstanding s
    rw [hflights, Option.getD_some] at hloop
    exact ⟨flights, hflights, hloop⟩

theorem issueCreateFlightPlan_issues
    (hflag : s.createFlightPlanRequested = false) :
    Issues .creation s s.issueCreateFlightPlan where
  low := hflag
  requested := by
    obtain ⟨client, hclient⟩ := issueCreateFlightPlan_frame s
    rw [hclient]
    intro k
    cases k <;> simp [TelemetrySubmitter.requested]
  outstanding := by
    rw [issueCreateFlightPlan]
    dsimp only
    split
    next hposition =>
      exact ⟨[], by simp, by simp, fun _ => Or.inr ⟨⟨rfl, hposition⟩, rfl⟩⟩
    next =>
      split
      · exact issue_outstanding rfl (by simp only [access_outstanding])
      · exact issue_outstanding rfl (by simp only [access_outstanding])
  cleanUp := (nomatch ·)

theorem issueSubmitFlightPlan_issues
    (hflag : s.submitFlightPlanRequested = false) :
    Issues .submission s s.issueSubmitFlightPlan where
  low := hflag
  requested := by
    intro k
    cases k <;> simp [TelemetrySubmitter.requested, issueSubmitFlightPlan, issue,
      access]
  outstanding := issue_outstanding rfl (by simp only [access_outstanding])
  cleanUp := (nomatch ·)

theorem issueMonitorTraffic_issues
    (hflag : s.trafficMonitoringRequested = false) :
    Issues .monitoring s s.issueMonitorTraffic where
  low := hflag
  requested := by
    intro k
    cases k <;> simp [TelemetrySubmitter.requested, issueMonitorTraffic, issue,
      access]
  outstanding := issue_outstanding rfl (by simp only [access_outstanding])
  cleanUp := (nomatch ·)

theorem issueStartFlightComms_issues
    (hflag : s.startFlightCommsRequested = false) :
    Issues .communications s s.issueStartFlightComms where
  low := hflag
  requested := by
    intro k
    cases k <;> simp [TelemetrySubmitter.requested, issueStartFlightComms, issue,
      access]
  outstanding := issue_outstanding rfl (by simp only [access_outstanding])
  cleanUp := (nomatch ·)

/-- Every call of a chain raises one flag, or only subscribes. -/
theorem Action.issues (h : Action s s') :
    (∃ kind, Issues kind s s') ∨ ∃ monitor, s' = s.record (.subscribed monitor) := by
  cases h with
  | authorization hvalue hflag => exact Or.inl ⟨_, issueAuthorization_issues hflag⟩
  | pilotId hauthorization hvalue hflag =>
      exact Or.inl ⟨_, issuePilotId_issues hauthorization hflag⟩
  | activeFlights hvalue hflag => exact Or.inl ⟨_, issueActiveFlights_issues hflag⟩
  | endActiveFlights hflights hflag =>
      exact Or.inl ⟨_, issueEndActiveFlights_issues hflights hflag⟩
  | createFlightPlan hflights hvalue hflag =>
      exact Or.inl ⟨_, issueCreateFlightPlan_issues hflag⟩
  | submitFlightPlan hplan hvalue hflag =>
      exact Or.inl ⟨_, issueSubmitFlightPlan_issues hflag⟩
  | monitorTraffic hflight hvalue hflag =>
      exact Or.inl ⟨_, issueMonitorTraffic_issues hflag⟩
  | subscribe => exact Or.inr ⟨_, rfl⟩
  | startFlightComms hflight hvalue hflag =>
      exact Or.inl ⟨_, issueStartFlightComms_issues hflag⟩

/-! ## Slots along a chain -/

theorem Entry.succeeds_of_isOwn (kind : Request.Kind) {entry : Entry}
    (h : Entry.IsOwn entry) : Entry.succeeds kind entry = false := by
  cases entry with
  | answered => exact h.elim
  | _ => rfl

theorem Extends.succeeded (h : Extends s s') (kind : Request.Kind) :
    s'.client.history.countP (Entry.succeeds kind) =
      s.client.history.countP (Entry.succeeds kind) := by
  exact h.own.countP_eq fun _ => Entry.succeeds_of_isOwn kind

/-- The silent creation of a submitter that knows no position. -/
def CreatesSilently (kind : Request.Kind) (s : TelemetrySubmitter) : Prop :=
  kind = .creation ∧ s.currentPosition = none

theorem Action.slot (h : Action s s') {kind : Request.Kind}
    (hkind : Request.Kind.IsSingle kind) :
    s'.slot kind = s.slot kind ∨
      Machine.Slot.Issues (CreatesSilently kind s) (s.slot kind) (s'.slot kind) := by
  have hsucceeded := h.extends.succeeded kind
  rcases h.issues with ⟨issued, hissues⟩ | ⟨monitor, rfl⟩
  · obtain ⟨tickets, houtstanding, hkinds, hlength⟩ := hissues.outstanding
    have hrequested := hissues.requested kind
    by_cases hsame : kind = issued
    · right
      subst hsame
      have hall : tickets.countP (fun ticket => ticket.request.kind = kind) =
          tickets.length := by
        rw [List.countP_eq_length]
        simpa using hkinds
      refine ⟨hissues.low, by simp [TelemetrySubmitter.slot, hrequested], ?_,
        hsucceeded⟩
      simp only [TelemetrySubmitter.slot, houtstanding, List.countP_append, hall]
      rcases hlength hkind.1 with hone | ⟨hsilent, hnone⟩
      · exact Or.inl (by rw [hone])
      · exact Or.inr ⟨hsilent, by rw [hnone]; rfl⟩
    · left
      have hnone : tickets.countP (fun ticket => ticket.request.kind = kind) = 0 := by
        rw [List.countP_eq_zero]
        intro ticket hticket
        simp [hkinds ticket hticket, Ne.symm hsame]
      simp [TelemetrySubmitter.slot, hrequested, hsame, hsucceeded, houtstanding,
        List.countP_append, hnone]
  · left
    simp only [TelemetrySubmitter.slot, hsucceeded]
    cases kind <;> rfl

/-- Along a chain a slot issues at most once. -/
theorem chain_slot (hchain : Chain s s') {kind : Request.Kind}
    (hkind : Request.Kind.IsSingle kind) :
    s'.slot kind = s.slot kind ∨
      Machine.Slot.Issues (CreatesSilently kind s) (s.slot kind) (s'.slot kind) := by
  induction hchain with
  | refl => exact Or.inl rfl
  | @tail b c hbefore haction ih =>
      have hposition : b.currentPosition = s.currentPosition :=
        congrArg Stored.currentPosition (chain_extends hbefore).stored
      have hnext := haction.slot hkind
      rw [CreatesSilently, hposition] at hnext
      rcases ih with hsame | hissued
      · rw [hsame] at hnext
        exact hnext
      · right
        rcases hnext with hsame | hagain
        · rw [hsame]
          exact hissued
        · cases hissued.raised.symm.trans hagain.low

theorem chain_single (hchain : Chain s s') {kind : Request.Kind}
    (hkind : Request.Kind.IsSingle kind) (h : (s.slot kind).Single) :
    (s'.slot kind).Single := by
  rcases chain_slot hchain hkind with hsame | hissued
  · rw [hsame]
    exact h
  · exact (Machine.Slot.Move.issue hissued).single h

/-- A chain that creates nothing silently keeps a slot for each raised flag. -/
theorem chain_kept (hchain : Chain s s') {kind : Request.Kind}
    (hkind : Request.Kind.IsSingle kind)
    (hloud : CreatesSilently kind s →
      s'.createFlightPlanRequested = s.createFlightPlanRequested)
    (h : (s.slot kind).Kept) : (s'.slot kind).Kept := by
  rcases chain_slot hchain hkind with hsame | hissued
  · rw [hsame]
    exact h
  · by_cases hsilent : CreatesSilently kind s
    · have hflag := hloud hsilent
      obtain ⟨rfl, -⟩ := hsilent
      have hlow : s.createFlightPlanRequested = false := hissued.low
      have hraised : s'.createFlightPlanRequested = true := hissued.raised
      rw [hflag, hlow] at hraised
      cases hraised
    · exact (Machine.Slot.Move.issue hissued).kept hsilent h

theorem enterActive_slot (s : TelemetrySubmitter) (kind : Request.Kind) :
    s.enterActive.slot kind = s.slot kind := by
  unfold enterActive Client.activate
  split <;> cases kind <;> rfl

theorem submitUpdates_slot {flight : Flight} {key : String}
    {position : Mavlink.GlobalPositionInt} {kind : Request.Kind} :
    ({ s with currentPosition := some position }.record
      (.submittedUpdates flight key position)).slot kind = s.slot kind := by
  simp only [slot, record, Client.record, List.countP_cons, Entry.succeeds]
  cases kind <;> rfl

/-! ## Slots and answers -/

/-- Only a failure lowers a flag, and only its own. -/
theorem Absorbs.requested {request : Request} {reply : Reply}
    (h : Absorbs s request reply s') (kind : Request.Kind) :
    s'.requested kind =
      (s.requested kind && (reply.isSuccess || decide (request.kind ≠ kind))) := by
  cases h with
  | authorization hkind | authorizationFailed hkind | creationFailed hkind =>
      rw [hkind]
      cases kind <;> simp [TelemetrySubmitter.requested, Reply.isSuccess]
  | endFlight =>
      cases kind <;> simp [TelemetrySubmitter.requested, Request.kind]
  | _ =>
      cases kind <;>
        simp [TelemetrySubmitter.requested, Reply.isSuccess, Request.kind,
          handleRequestMonitorTrafficFinished, record, TelemetrySubmitter.access]

theorem Absorbs.succeeded {request : Request} {reply : Reply}
    (h : Absorbs s request reply s') (kind : Request.Kind) :
    s'.client.history.countP (Entry.succeeds kind) =
      s.client.history.countP (Entry.succeeds kind) := by
  exact h.own.countP_eq fun _ => Entry.succeeds_of_isOwn kind

/-- An answer moves the slot of its request and no other. -/
theorem Absorbs.slot {i : ℕ} {ticket : Ticket} {reply : Reply}
    {s₁ : TelemetrySubmitter} (hticket : s.client.outstanding[i]? = some ticket)
    (habsorbs : Absorbs (s.answered i ticket reply) ticket.request reply s₁)
    (kind : Request.Kind) :
    s₁.slot kind = s.slot kind ∨
      Machine.Slot.Move False (s.slot kind) (s₁.slot kind) := by
  have hpending := Machine.countP_eraseIdx
    (p := fun ticket => decide (ticket.request.kind = kind)) hticket
  have hrest : s₁.client.outstanding = s.client.outstanding.eraseIdx i :=
    habsorbs.outstanding
  have hrequested := habsorbs.requested kind
  have hsucceeded := habsorbs.succeeded kind
  have hanswered : (s.answered i ticket reply).client.history.countP
      (Entry.succeeds kind) = s.client.history.countP (Entry.succeeds kind) +
        if decide (ticket.request.kind = kind) && reply.isSuccess then 1 else 0 := by
    rw [answered, Client.answer, List.countP_cons]
    rfl
  by_cases hkind : ticket.request.kind = kind
  · right
    simp only [hkind, decide_true, if_true, Bool.true_and, ne_eq, not_true,
      decide_false, Bool.or_false] at hpending hanswered hrequested
    cases hsuccess : reply.isSuccess with
    | true =>
        simp only [hsuccess, if_true, Bool.and_true] at hanswered hrequested
        exact .succeed hrequested
          (by simp only [TelemetrySubmitter.slot, hrest, hpending])
          (by simp only [TelemetrySubmitter.slot, hsucceeded, hanswered])
    | false =>
        simp only [hsuccess, Bool.and_false] at hrequested
        simp only [hsuccess, Bool.false_eq_true, if_false, Nat.add_zero] at hanswered
        exact .fail hrequested (by simp only [TelemetrySubmitter.slot, hrest, hpending])
          (by simp only [TelemetrySubmitter.slot, hsucceeded, hanswered])
  · left
    simp only [hkind, decide_false, Bool.false_eq_true, if_false, Nat.add_zero,
      Bool.false_and, ne_eq, not_false_eq_true, decide_true, Bool.or_true,
      Bool.and_true] at hpending hanswered hrequested
    exact Machine.Slot.ext hrequested
      (by simp only [TelemetrySubmitter.slot, hrest, hpending])
      (by simp only [TelemetrySubmitter.slot, hsucceeded, hanswered])

/-- In a run without `deactivate`, each flag allows one request at a time. -/
theorem Step.single {event : Event} (hstep : Step s event s')
    (hevent : event ≠ .deactivate) {kind : Request.Kind}
    (hkind : Request.Kind.IsSingle kind) (h : (s.slot kind).Single) :
    (s'.slot kind).Single := by
  cases hstep with
  | activate hchain =>
      apply chain_single hchain hkind
      rw [enterActive_slot]
      exact h
  | deactivateInactive | deactivateEnding | deactivate => exact absurd rfl hevent
  | submitInactive => exact h
  | submitUpdates =>
      rw [submitUpdates_slot]
      exact h
  | submitRequesting hstate hmissing hchain => exact chain_single hchain hkind h
  | setMissionGeometry => exact h
  | answer hticket habsorbs hchain =>
      apply chain_single hchain hkind
      rcases habsorbs.slot hticket kind with hsame | hmove
      · rw [hsame]
        exact h
      · exact hmove.single h

end TelemetrySubmitter
end Airmap.Monitor
