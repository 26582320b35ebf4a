import PlatformSdk.Monitor.TelemetrySubmitter.CleanUp
import PlatformSdk.Monitor.TelemetrySubmitter.Slots

/-!
# One flight per activation

Without a `deactivate`, the slots of the creation and of the submission admit
one flight, and the clean-up comes before it: every flight that the search
found is either still to be ended or was answered to be ended.
-/

namespace Airmap.Monitor.TelemetrySubmitter

variable {s s' : TelemetrySubmitter}

/-- The flights that an answer to the search found. -/
def Entry.found : Entry → Option (List Flight)
  | .answered ticket reply => foundFlights ticket.request reply
  | _ => none

/-- The entry is the successful answer to the clean-up request for a flight. -/
def Entry.EndsActive (id : String) : Entry → Prop
  | .answered ⟨.endActiveFlight _ id', _, _⟩ .ended => id' = id
  | _ => False

/-- A creation is issued after a search was answered, and after every flight
that it found was answered to be ended. -/
def Entry.AfterCleanUp : Entry → List Entry → Prop
  | .issued ticket, past =>
      ticket.request.kind = .creation →
        (∃ entry ∈ past, (Entry.found entry).isSome) ∧
        ∀ entry ∈ past, ∀ flights ∈ Entry.found entry, ∀ flight ∈ flights,
          ∃ ended ∈ past, Entry.EndsActive flight.id ended
  | _, _ => True

/-- How far the clean-up is: a search was answered once flights are stored,
and each flight it found is still stored or was answered to be ended. -/
structure CleaningUp (s : TelemetrySubmitter) : Prop where
  found : s.activeFlights.isSome →
    ∃ entry ∈ s.client.history, (Entry.found entry).isSome
  ending : ∀ entry ∈ s.client.history, ∀ flights ∈ Entry.found entry,
    ∀ flight ∈ flights,
      (∃ active ∈ s.activeFlights, ∃ left ∈ active, left.id = flight.id) ∨
        ∃ ended ∈ s.client.history, Entry.EndsActive flight.id ended

/-- Entries that find nothing leave the clean-up where it is. -/
theorem cleaningUp_of_grows {q : Entry → Prop} (h : s.CleaningUp)
    (hflights : s'.activeFlights = s.activeFlights)
    (hhistory : Machine.GrowsBy q s.client.history s'.client.history)
    (hquiet : ∀ entry, q entry → Entry.found entry = none) : s'.CleaningUp where
  found := by
    rw [hflights]
    intro hsome
    obtain ⟨entry, hentry, hfound⟩ := h.found hsome
    exact ⟨entry, hhistory.subset hentry, hfound⟩
  ending := by
    rw [hflights]
    refine hhistory.forall ?_ ?_
    · intro entry hentry flights hfound flight hflight
      rcases h.ending entry hentry flights hfound flight hflight with
        hleft | ⟨ended, hended, hends⟩
      · exact Or.inl hleft
      · exact Or.inr ⟨ended, hhistory.subset hended, hends⟩
    · intro entry hq flights hfound
      rw [hquiet entry hq] at hfound
      cases hfound

theorem Entry.found_of_isOwn {entry : Entry} (h : Entry.IsOwn entry) :
    Entry.found entry = none := by
  cases entry with
  | answered => exact h.elim
  | _ => rfl

theorem Entry.afterCleanUp_of_isNote {entry : Entry} (h : Entry.isNote entry)
    (past : List Entry) : Entry.AfterCleanUp entry past := by
  cases entry with
  | issued => exact h.elim
  | _ => trivial

/-- A chain creates after the clean-up. -/
theorem chain_afterCleanUp (hchain : Chain s s') (hcleaning : s.CleaningUp)
    (h : Machine.Always Entry.AfterCleanUp s.client.history) :
    s'.CleaningUp ∧ Machine.Always Entry.AfterCleanUp s'.client.history := by
  have hextends := chain_extends hchain
  constructor
  · exact cleaningUp_of_grows hcleaning
      (congrArg Stored.activeFlights hextends.stored) hextends.own
      fun _ => Entry.found_of_isOwn
  · apply hextends.history.always h
    intro entry past hpermits hpast
    cases entry with
    | issued ticket =>
        intro hkind
        have hdue := hpermits.2.2
        rw [hkind] at hdue
        have hflights : s.activeFlights = some [] := hdue.1
        obtain ⟨found, hmem, hfound⟩ := hcleaning.found (by rw [hflights]; rfl)
        refine ⟨⟨found, hpast.subset hmem, hfound⟩, hpast.forall ?_ ?_⟩
        · intro entry hentry flights hfound flight hflight
          rcases hcleaning.ending entry hentry flights hfound flight hflight with
            ⟨active, hactive, left, hleft, -⟩ | ⟨ended, hended, hends⟩
          · rw [hflights, Option.mem_some_iff] at hactive
            rw [← hactive] at hleft
            cases hleft
          · exact ⟨ended, hpast.subset hended, hends⟩
        · intro entry hentry flights hfound
          rw [Entry.found_of_isOwn hentry.isOwn] at hfound
          cases hfound
    | _ => trivial

/-- While a search waits, no flights were found yet. -/
theorem found_of_pending {i : ℕ} {ticket : Ticket} {entry : Entry}
    (hslot : (s.slot .search).Single)
    (hticket : s.client.outstanding[i]? = some ticket)
    (hkind : ticket.request.kind = .search) (hentry : entry ∈ s.client.history) :
    Entry.found entry = none := by
  have hpending : 1 ≤ (s.slot .search).pending := by
    apply List.countP_pos_iff.mpr
    exact ⟨ticket, List.mem_of_getElem? hticket, by simp [hkind]⟩
  have hnone := List.countP_eq_zero.mp (hslot.succeeded_eq_zero hpending) entry hentry
  cases entry with
  | answered answered reply =>
      rcases answered with ⟨request, activation, state⟩
      unfold Entry.found foundFlights
      dsimp only
      split
      next => exact absurd rfl hnone
      next => rfl
  | _ => rfl

/-- Ending a flight leaves the others that are still to be ended. -/
theorem mem_eraseFlight {id : String} {flights : List Flight} {flight : Flight}
    (hflight : flight ∈ flights) (hid : flight.id ≠ id) :
    flight ∈ eraseFlight id flights := by
  apply (List.mem_eraseP_of_neg ?_).mpr hflight
  simpa using hid

/-- An answer that finds no flights leaves the clean-up where it is. -/
theorem Absorbs.cleaningUp_quiet {i : ℕ} {ticket : Ticket} {reply : Reply}
    {s₁ : TelemetrySubmitter}
    (habsorbs : Absorbs (s.answered i ticket reply) ticket.request reply s₁)
    (h : s.CleaningUp) (hflights : s₁.activeFlights = s.activeFlights)
    (hquiet : foundFlights ticket.request reply = none) : s₁.CleaningUp := by
  have hanswered : Machine.GrowsBy (fun entry => Entry.found entry = none)
      s.client.history (s.answered i ticket reply).client.history :=
    (Machine.GrowsBy.refl _).cons hquiet
  have hown := habsorbs.own.mono fun _ => Entry.found_of_isOwn
  exact cleaningUp_of_grows h hflights (hanswered.trans hown) fun _ => id

/-- Flights are stored by an answer to the search, and shrink by an answer to a
clean-up request. -/
theorem Absorbs.activeFlights_cases {request : Request} {reply : Reply}
    (h : Absorbs s request reply s') :
    (foundFlights request reply = none ∧ s'.activeFlights = s.activeFlights ∧
      (request.kind = .endActiveFlight → reply.isSuccess = false)) ∨
    (∃ pilotId flights, request = .search pilotId ∧ reply = .flights flights ∧
      s'.activeFlights = some flights) ∨
    ∃ authorization id, request = .endActiveFlight authorization id ∧
      reply = .ended ∧
        s'.activeFlights = s.activeFlights.map (eraseFlight id) := by
  cases h with
  | activeFlights => exact Or.inr (Or.inl ⟨_, _, rfl, rfl, rfl⟩)
  | endActiveFlight => exact Or.inr (Or.inr ⟨_, _, rfl, rfl, rfl⟩)
  | authorization hkind | authorizationFailed hkind | creationFailed hkind =>
      refine Or.inl ⟨?_, rfl, ?_⟩
      · cases request <;> rfl
      · rw [hkind]
        exact (nomatch ·)
  | endActiveFlightFailed => exact Or.inl ⟨rfl, rfl, fun _ => rfl⟩
  | _ => exact Or.inl ⟨rfl, rfl, (nomatch ·)⟩

/-- The flights that the search finds are all still to be ended. -/
theorem Absorbs.cleaningUp_found {i : ℕ} {ticket : Ticket} {flights : List Flight}
    {s₁ : TelemetrySubmitter} (hslot : (s.slot .search).Single)
    (hticket : s.client.outstanding[i]? = some ticket)
    (habsorbs : Absorbs (s.answered i ticket (.flights flights)) ticket.request
      (.flights flights) s₁)
    (hkind : ticket.request.kind = .search)
    (hfound : foundFlights ticket.request (.flights flights) = some flights)
    (hflights : s₁.activeFlights = some flights) : s₁.CleaningUp := by
  refine ⟨fun _ => ⟨_, habsorbs.answered_mem, Option.isSome_of_eq_some hfound⟩,
    habsorbs.own.forall ?_ ?_⟩
  · intro entry hentry found hentryFound flight hflight
    rcases List.mem_cons.mp hentry with rfl | hold
    · have hsame : flights = found := Option.some.inj (hfound.symm.trans hentryFound)
      rw [← hsame] at hflight
      exact Or.inl ⟨flights, hflights, flight, hflight, rfl⟩
    · rw [found_of_pending hslot hticket hkind hold] at hentryFound
      cases hentryFound
  · intro entry hown found hentryFound
    rw [Entry.found_of_isOwn hown] at hentryFound
    cases hentryFound

/-- A clean-up request that succeeds moves its flight to the ended ones. -/
theorem Absorbs.cleaningUp_ended {i : ℕ} {ticket : Ticket} {id : String}
    {s₁ : TelemetrySubmitter} (h : s.CleaningUp)
    (habsorbs : Absorbs (s.answered i ticket .ended) ticket.request .ended s₁)
    (hends : Entry.EndsActive id (.answered ticket .ended))
    (hquiet : foundFlights ticket.request .ended = none)
    (hflights : s₁.activeFlights = s.activeFlights.map (eraseFlight id)) :
    s₁.CleaningUp := by
  have hsubset := habsorbs.history_subset
  refine ⟨fun hsome => ?_, habsorbs.own.forall ?_ ?_⟩
  · rw [hflights, Option.isSome_map] at hsome
    obtain ⟨entry, hentry, hfound⟩ := h.found hsome
    exact ⟨entry, hsubset hentry, hfound⟩
  · intro entry hentry found hfound flight hflight
    rcases List.mem_cons.mp hentry with rfl | hold
    · cases hquiet.symm.trans hfound
    · rcases h.ending entry hold found hfound flight hflight with
        ⟨active, hactive, left, hleft, hid⟩ | ⟨ended, hended, hendsFlight⟩
      · by_cases hsame : left.id = id
        · right
          refine ⟨_, habsorbs.answered_mem, ?_⟩
          rw [← hid, hsame]
          exact hends
        · left
          refine ⟨eraseFlight id active, ?_, left, mem_eraseFlight hleft hsame, hid⟩
          rw [hflights]
          exact Option.mem_map_of_mem _ hactive
      · exact Or.inr ⟨ended, hsubset hended, hendsFlight⟩
  · intro entry hown found hfound
    rw [Entry.found_of_isOwn hown] at hfound
    cases hfound

/-- What an answer stores continues the clean-up. -/
theorem Absorbs.cleaningUp {i : ℕ} {ticket : Ticket} {reply : Reply}
    {s₁ : TelemetrySubmitter} (hslot : (s.slot .search).Single)
    (h : s.CleaningUp) (hticket : s.client.outstanding[i]? = some ticket)
    (habsorbs : Absorbs (s.answered i ticket reply) ticket.request reply s₁) :
    s₁.CleaningUp := by
  rcases habsorbs.activeFlights_cases with ⟨hquiet, hflights, -⟩ |
    ⟨pilotId, flights, hsearch, rfl, hflights⟩ |
    ⟨authorization, id, hend, rfl, hflights⟩
  · exact habsorbs.cleaningUp_quiet h hflights hquiet
  · have hkind : ticket.request.kind = .search := by rw [hsearch]; rfl
    have hfound : foundFlights ticket.request (.flights flights) = some flights := by
      rw [hsearch]
      rfl
    exact habsorbs.cleaningUp_found hslot hticket hkind hfound hflights
  · have hquiet : foundFlights ticket.request .ended = none := by
      rw [hend]
      rfl
    have hends : Entry.EndsActive id (.answered ticket .ended) := by
      rcases ticket with ⟨request, activation, state⟩
      cases hend
      rfl
    exact habsorbs.cleaningUp_ended h hends hquiet hflights

/-! ## Runs without `deactivate` -/

/-- What holds in every run without `deactivate`. -/
structure CreatesOnce (s : TelemetrySubmitter) : Prop where
  single : ∀ kind, Request.Kind.IsSingle kind → (s.slot kind).Single
  cleaningUp : s.CleaningUp
  afterCleanUp : Machine.Always Entry.AfterCleanUp s.client.history

theorem Step.createsOnce {event : Event} (hevent : event ≠ .deactivate)
    (h : s.CreatesOnce) (hstep : Step s event s') : s'.CreatesOnce := by
  have hsingle : ∀ kind, Request.Kind.IsSingle kind → (s'.slot kind).Single :=
    fun kind hkind => hstep.single hevent hkind (h.single kind hkind)
  have hboth : s'.CleaningUp ∧
      Machine.Always Entry.AfterCleanUp s'.client.history := by
    cases hstep with
    | activate hchain =>
        have hhistory := enterActive_history s
        apply chain_afterCleanUp hchain
        · refine cleaningUp_of_grows (q := fun _ => False) h.cleaningUp rfl ?_
            fun _ hfalse => hfalse.elim
          rw [hhistory]
          exact .refl _
        · rw [hhistory]
          exact h.afterCleanUp
    | deactivateInactive | deactivateEnding | deactivate => exact absurd rfl hevent
    | submitInactive | setMissionGeometry =>
        exact ⟨⟨h.cleaningUp.found, h.cleaningUp.ending⟩, h.afterCleanUp⟩
    | submitUpdates =>
        refine ⟨?_, trivial, h.afterCleanUp⟩
        refine cleaningUp_of_grows (q := fun entry => Entry.found entry = none)
          h.cleaningUp rfl ((Machine.GrowsBy.refl _).cons rfl) fun _ => id
    | submitRequesting hstate hmissing hchain =>
        exact chain_afterCleanUp hchain
          ⟨h.cleaningUp.found, h.cleaningUp.ending⟩ h.afterCleanUp
    | answer hticket habsorbs hchain =>
        apply chain_afterCleanUp hchain
        · exact habsorbs.cleaningUp (h.single .search (by decide))
            h.cleaningUp hticket
        · apply habsorbs.history.always
          · exact ⟨trivial, h.afterCleanUp⟩
          · exact fun entry past hnote _ => Entry.afterCleanUp_of_isNote hnote past
  exact ⟨hsingle, hboth.1, hboth.2⟩

theorem createsOnce_create (credentials : Credentials) (aircraftId : String) :
    (create credentials aircraftId).CreatesOnce where
  single := fun _ _ => Nat.zero_le _
  cleaningUp := ⟨(nomatch ·), fun _ hentry => nomatch hentry⟩
  afterCleanUp := trivial

/-- In a run without `deactivate`, at most one creation waits, at most one
creation and one submission succeed, and each creation is issued after the
clean-up. -/
theorem one_flight_afterCleanUp {credentials : Credentials}
    {aircraftId : String} {events : List Event}
    (hevents : .deactivate ∉ events)
    (hrun : Machine.run step (create credentials aircraftId) events = some s) :
    (s.slot .creation).pending ≤ 1 ∧ (s.slot .creation).succeeded ≤ 1 ∧
      (s.slot .submission).succeeded ≤ 1 ∧
      Machine.Always Entry.AfterCleanUp s.client.history := by
  have hmeets : Machine.Meets step (fun _ event => event ≠ .deactivate)
      (create credentials aircraftId) events :=
    Machine.meets_of_mem _ fun event hevent => by
      rintro rfl
      exact hevents hevent
  have hinv := invariant_of_step CreatesOnce
    (fun _ _ _ hinv hevent hstep => hstep.createsOnce hevent hinv)
    (createsOnce_create credentials aircraftId) hmeets hrun
  have hcreation := hinv.single .creation (by decide)
  have hsubmission := hinv.single .submission (by decide)
  exact ⟨hcreation.pending_le, hcreation.succeeded_le, hsubmission.succeeded_le,
    hinv.afterCleanUp⟩

/-- A clean-up of two flights whose first request fails and is issued again,
and the creation after it. -/
def cleaningRun : List Event :=
  [.submit ⟨350000000, -780000000, 0, 0⟩, .activate,
    .answer 0 (.authorization "token"), .answer 0 (.pilot "pilot"),
    .answer 0 (.flights [{ id := "old" }, { id := "older" }]),
    .answer 0 .failure, .submit ⟨350000001, -780000000, 0, 0⟩,
    .answer 0 .ended, .answer 0 .ended, .answer 1 (.flight { id := "new" })]

theorem one_flight_afterCleanUp_cleaningRun :
    ∃ s, Machine.run step (create {} "aircraft") cleaningRun = some s ∧
      (s.slot .creation).pending ≤ 1 ∧ (s.slot .creation).succeeded ≤ 1 ∧
      (s.slot .submission).succeeded ≤ 1 ∧
      Machine.Always Entry.AfterCleanUp s.client.history := by
  obtain ⟨s, hrun⟩ : ∃ s,
      Machine.run step (create {} "aircraft") cleaningRun = some s :=
    Option.isSome_iff_exists.mp (by decide)
  exact ⟨s, hrun, one_flight_afterCleanUp (by simp [cleaningRun]) hrun⟩

end Airmap.Monitor.TelemetrySubmitter
