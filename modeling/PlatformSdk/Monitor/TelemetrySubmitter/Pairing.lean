import PlatformSdk.Monitor.TelemetrySubmitter.Steps

/-!
# Which key a telemetry update is encrypted with

The flight and its key are stored by two callbacks that know nothing of each
other.  They belong together as long as a key arrives while its flight is the
current one and a flight arrives while no key is stored.
-/

namespace Airmap.Monitor.TelemetrySubmitter

variable {s s' : TelemetrySubmitter}

/-- The key that a successful start of flight communications returns, with the
id of the flight it was asked for. -/
def returnedKey : Request → Reply → Option (String × String)
  | .startFlightCommunications _ id, .key key => some (id, key)
  | _, _ => none

/-- The entry is an answer that returned `key` for the flight `id`. -/
def Entry.Returns (id key : String) : Entry → Prop
  | .answered ticket reply => returnedKey ticket.request reply = some (id, key)
  | _ => False

instance (id key : String) : DecidablePred (Entry.Returns id key)
  | .answered _ _ => inferInstanceAs (Decidable (_ = _))
  | .issued _ | .submittedUpdates _ _ _ | .subscribed _ | .undefined _ =>
      inferInstanceAs (Decidable False)

/-- A telemetry update uses a key returned before for its flight. -/
def Entry.Paired : Entry → List Entry → Prop
  | .submittedUpdates flight key _, past =>
      ∃ entry ∈ past, Entry.Returns flight.id key entry
  | _, _ => True

instance : ∀ entry past, Decidable (Entry.Paired entry past)
  | .submittedUpdates _ _ _, _ => inferInstanceAs (Decidable (∃ _ ∈ _, _))
  | .issued _, _ | .answered _ _, _ | .subscribed _, _ | .undefined _, _ =>
      inferInstanceAs (Decidable True)

/-- An answer comes in time for the pairing: a key while the flight it was
asked for is stored, a flight while no key is stored or for the flight that is
stored already. -/
def ArrivesInPair (s : TelemetrySubmitter) : Event → Prop :=
  s.OnAnswer fun ticket reply =>
    (∀ flight ∈ reportedFlight ticket.request reply,
      s.encryptionKey = none ∨ s.flight.map Flight.id = some flight.id) ∧
    ∀ idAndKey ∈ returnedKey ticket.request reply,
      s.flight.map Flight.id = some idAndKey.1

instance (s : TelemetrySubmitter) (event : Event) :
    Decidable (s.ArrivesInPair event) :=
  inferInstanceAs (Decidable (s.OnAnswer _ event))

/-- The stored key was returned for the stored flight. -/
def KeyOfFlight (s : TelemetrySubmitter) : Prop :=
  ∀ flight key, s.flight = some flight → s.encryptionKey = some key →
    ∃ entry ∈ s.client.history, Entry.Returns flight.id key entry

theorem Entry.paired_of_isOwn {entry : Entry} (h : Entry.IsOwn entry)
    (past : List Entry) : Entry.Paired entry past := by
  cases entry with
  | submittedUpdates => exact h.elim
  | _ => trivial

theorem keyOfFlight_of_none (hflight : s.flight = none) : s.KeyOfFlight := by
  intro flight key hf
  rw [hflight] at hf
  cases hf

theorem keyOfFlight_of_eq (h : s.KeyOfFlight) (hflight : s'.flight = s.flight)
    (hkey : s'.encryptionKey = s.encryptionKey)
    (hhistory : s.client.history ⊆ s'.client.history) : s'.KeyOfFlight := by
  intro flight key hf hk
  rw [hflight] at hf
  rw [hkey] at hk
  obtain ⟨entry, hentry, hreturns⟩ := h flight key hf hk
  exact ⟨entry, hhistory hentry, hreturns⟩

theorem Extends.keyOfFlight (h : Extends s s') (hkey : s.KeyOfFlight) :
    s'.KeyOfFlight :=
  keyOfFlight_of_eq hkey (congrArg Stored.flight h.stored)
    (congrArg Stored.encryptionKey h.stored) h.history.subset

/-- A flight that arrives in time leaves the pairing as it is. -/
theorem keyOfFlight_of_flight {flight : Flight} (h : s.KeyOfFlight)
    (hflight : s'.flight = some flight)
    (hkey : s'.encryptionKey = s.encryptionKey)
    (hhistory : s.client.history ⊆ s'.client.history)
    (htime : s.encryptionKey = none ∨ s.flight.map Flight.id = some flight.id) :
    s'.KeyOfFlight := by
  intro stored key hf hk
  rw [hflight, Option.some.injEq] at hf
  subst hf
  rw [hkey] at hk
  rcases htime with hnone | hsame
  · rw [hnone] at hk
    cases hk
  · obtain ⟨old, hold, hid⟩ := Option.map_eq_some_iff.mp hsame
    obtain ⟨entry, hentry, hreturns⟩ := h old key hold hk
    rw [hid] at hreturns
    exact ⟨entry, hhistory hentry, hreturns⟩

/-- A callback whose answer arrives in time keeps the pairing. -/
theorem Absorbs.keyOfFlight {i : ℕ} {ticket : Ticket} {reply : Reply}
    {s₁ : TelemetrySubmitter} (h : s.KeyOfFlight)
    (hticket : s.client.outstanding[i]? = some ticket)
    (htime : s.ArrivesInPair (.answer i reply))
    (habsorbs : Absorbs (s.answered i ticket reply) ticket.request reply s₁) :
    s₁.KeyOfFlight := by
  have hhistory := habsorbs.history_subset
  have hanswered := habsorbs.answered_mem
  obtain ⟨hreported, hreturned⟩ := htime ticket hticket
  rcases ticket with ⟨request, activation, state⟩
  cases habsorbs with
  | flightByPoint =>
      exact keyOfFlight_of_flight h rfl rfl hhistory (hreported _ rfl)
  | submitted =>
      exact keyOfFlight_of_flight h rfl rfl hhistory (hreported _ rfl)
  | encryptionKey =>
      intro flight key hflight hkey
      cases hkey
      have hid := hreturned _ rfl
      have hsame : s.flight = some flight := hflight
      rw [hsame, Option.map_some, Option.some.injEq] at hid
      refine ⟨_, hanswered, ?_⟩
      simp only [Entry.Returns, returnedKey, hid]
  | _ => exact keyOfFlight_of_eq h rfl rfl hhistory

/-- What one step keeps: the stored pair and the pairs of the history. -/
theorem Step.paired {event : Event}
    (h : s.KeyOfFlight ∧ Machine.Always Entry.Paired s.client.history)
    (htime : s.ArrivesInPair event) (hstep : Step s event s') :
    s'.KeyOfFlight ∧ Machine.Always Entry.Paired s'.client.history := by
  obtain ⟨hkey, halways⟩ := h
  have hchain : ∀ {a b : TelemetrySubmitter}, Chain a b →
      a.KeyOfFlight → Machine.Always Entry.Paired a.client.history →
      b.KeyOfFlight ∧ Machine.Always Entry.Paired b.client.history := by
    intro a b hab ha halwaysA
    have hextends := chain_extends hab
    exact ⟨hextends.keyOfFlight ha, hextends.own.always halwaysA
      fun entry past hown _ => Entry.paired_of_isOwn hown past⟩
  cases hstep with
  | activate hactivate =>
      have hhistory := enterActive_history s
      apply hchain hactivate
      · exact keyOfFlight_of_eq hkey rfl rfl (by rw [hhistory]; exact fun _ => id)
      · rw [hhistory]
        exact halways
  | deactivateInactive => exact ⟨hkey, halways⟩
  | deactivateEnding =>
      exact ⟨keyOfFlight_of_none rfl, trivial, halways⟩
  | deactivate => exact ⟨keyOfFlight_of_none rfl, halways⟩
  | submitInactive => exact ⟨hkey, halways⟩
  | submitUpdates hstate hauthorization hflight hstored =>
      refine ⟨keyOfFlight_of_eq hkey rfl rfl (List.subset_cons_self _ _), ?_,
        halways⟩
      exact hkey _ _ hflight hstored
  | submitRequesting hstate hmissing hrequest =>
      exact hchain hrequest hkey halways
  | setMissionGeometry => exact ⟨hkey, halways⟩
  | answer hticket habsorbs hgoes =>
      apply hchain hgoes (habsorbs.keyOfFlight hkey hticket htime)
      apply habsorbs.own.always
      · exact ⟨trivial, halways⟩
      · exact fun entry past hown _ => Entry.paired_of_isOwn hown past

/-- In every run whose answers arrive in time for the pairing, telemetry is
only encrypted with a key that was returned for its flight. -/
theorem telemetry_paired {credentials : Credentials} {aircraftId : String}
    {events : List Event}
    (hmeets : Machine.Meets step ArrivesInPair (create credentials aircraftId)
      events)
    (hrun : Machine.run step (create credentials aircraftId) events = some s) :
    Machine.Always Entry.Paired s.client.history := by
  have hboth := invariant_of_step
    (fun s => s.KeyOfFlight ∧ Machine.Always Entry.Paired s.client.history)
    (C := ArrivesInPair)
    (fun _ _ _ hinv htime hstep => hstep.paired hinv htime)
    ⟨keyOfFlight_of_none rfl, trivial⟩ hmeets hrun
  exact hboth.2

/-- Two activations, each with a flight created by point: the key of the first
flight arrives in the second activation, before the second flight does. -/
def staleKeyRun : List Event :=
  [.submit ⟨350000000, -780000000, 0, 0⟩, .activate,
    .answer 0 (.authorization "token"), .answer 0 (.pilot "pilot"),
    .answer 0 (.flights []), .answer 0 (.flight { id := "first" }),
    .deactivate, .activate,
    .answer 3 (.authorization "token"), .answer 3 (.pilot "pilot"),
    .answer 1 (.key "key of first"), .answer 2 (.flight { id := "second" }),
    .submit ⟨350000001, -780000000, 0, 0⟩]

theorem telemetry_not_paired :
    ∃ s, Machine.run step (create {} "aircraft") staleKeyRun = some s ∧
      ¬ Machine.Always Entry.Paired s.client.history :=
  Machine.exists_run (by decide)

/-- One activation in which the key arrives and telemetry is sent. -/
def keyInTimeRun : List Event :=
  [.submit ⟨350000000, -780000000, 0, 0⟩, .activate,
    .answer 0 (.authorization "token"), .answer 0 (.pilot "pilot"),
    .answer 0 (.flights []), .answer 0 (.flight { id := "first" }),
    .answer 1 (.key "key of first"), .submit ⟨350000001, -780000000, 0, 0⟩]

theorem telemetry_paired_keyInTimeRun :
    ∃ s, Machine.run step (create {} "aircraft") keyInTimeRun = some s ∧
      Machine.Always Entry.Paired s.client.history := by
  obtain ⟨s, hrun⟩ : ∃ s,
      Machine.run step (create {} "aircraft") keyInTimeRun = some s :=
    Option.isSome_iff_exists.mp (by decide)
  exact ⟨s, hrun, telemetry_paired (by decide) hrun⟩

end Airmap.Monitor.TelemetrySubmitter
