import PlatformSdk.Monitor.TelemetrySubmitter.Steps

/-!
# Searching for active flights once per activation

A flight may be created once the flights that are still active were searched
for and ended.  The result of a search outlives `deactivate`, so each
activation searches afresh only if it finds no result when it begins, and
takes none that an earlier one asked for.
-/

namespace Airmap.Monitor.TelemetrySubmitter

variable {s s' : TelemetrySubmitter}

/-- The flights that a successful search found. -/
def foundFlights : Request → Reply → Option (List Flight)
  | .search _, .flights flights => some flights
  | _, _ => none

/-- The entry is an answer to a search that was issued in the activation. -/
def Entry.Finds (activation : ℕ) : Entry → Prop
  | .answered ticket reply =>
      ticket.activation = activation ∧
        (foundFlights ticket.request reply).isSome
  | _ => False

instance (activation : ℕ) : DecidablePred (Entry.Finds activation)
  | .answered _ _ => inferInstanceAs (Decidable (_ ∧ _))
  | .issued _ | .submittedUpdates _ _ _ | .subscribed _ | .undefined _ =>
      inferInstanceAs (Decidable False)

/-- A creation is issued after a search of the same activation was answered. -/
def Entry.SearchedAfresh : Entry → List Entry → Prop
  | .issued ticket, past =>
      ticket.request.kind = .creation →
        ∃ entry ∈ past, Entry.Finds ticket.activation entry
  | _, _ => True

instance : ∀ entry past, Decidable (Entry.SearchedAfresh entry past)
  | .issued _, _ => inferInstanceAs (Decidable (_ → _))
  | .answered _ _, _ | .submittedUpdates _ _ _, _ | .subscribed _, _
  | .undefined _, _ => inferInstanceAs (Decidable True)

/-- An activation that begins finds no result of a search, and the answer to a
search arrives in the activation that issued it. -/
def SearchesAfresh (s : TelemetrySubmitter) : Event → Prop
  | .activate => s.state = .inactive → s.activeFlights.isNone
  | .answer i reply =>
      ∀ ticket ∈ s.client.outstanding[i]?,
        (foundFlights ticket.request reply).isSome →
          ticket.activation = s.client.activations
  | .deactivate | .submit _ | .setMissionGeometry _ => True

instance (s : TelemetrySubmitter) : DecidablePred s.SearchesAfresh
  | .activate => inferInstanceAs (Decidable (_ → _))
  | .answer _ _ => inferInstanceAs (Decidable (∀ _ ∈ _, _ → _))
  | .deactivate | .submit _ | .setMissionGeometry _ =>
      inferInstanceAs (Decidable True)

/-- The stored flights were found by a search of the current activation. -/
def FoundAfresh (s : TelemetrySubmitter) : Prop :=
  s.activeFlights.isSome →
    ∃ entry ∈ s.client.history, Entry.Finds s.client.activations entry

theorem foundAfresh_of_eq (h : s.FoundAfresh)
    (hflights : s'.activeFlights = s.activeFlights)
    (hactivations : s'.client.activations = s.client.activations)
    (hhistory : s.client.history ⊆ s'.client.history) : s'.FoundAfresh := by
  intro hsome
  rw [hflights] at hsome
  rw [hactivations]
  obtain ⟨entry, hentry, hfinds⟩ := h hsome
  exact ⟨entry, hhistory hentry, hfinds⟩

/-- A chain over flights found afresh creates afresh. -/
theorem chain_searchedAfresh (hchain : Chain s s') (hfound : s.FoundAfresh)
    (h : Machine.Always Entry.SearchedAfresh s.client.history) :
    s'.FoundAfresh ∧ Machine.Always Entry.SearchedAfresh s'.client.history := by
  have hextends := chain_extends hchain
  constructor
  · exact foundAfresh_of_eq hfound (congrArg Stored.activeFlights hextends.stored)
      (congrArg Stored.activations hextends.stored) hextends.history.subset
  · apply hextends.history.always h
    intro entry past hpermits hpast
    cases entry with
    | issued ticket =>
        intro hkind
        obtain ⟨-, hactivation, hdue⟩ := hpermits
        rw [hkind] at hdue
        have hflights : s.activeFlights = some [] := hdue.1
        obtain ⟨found, hmem, hfinds⟩ := hfound (by rw [hflights]; rfl)
        refine ⟨found, hpast.subset hmem, ?_⟩
        rw [hactivation]
        exact hfinds
    | _ => trivial

theorem Entry.searchedAfresh_of_isNote {entry : Entry} (h : Entry.isNote entry)
    (past : List Entry) : Entry.SearchedAfresh entry past := by
  cases entry with
  | issued => exact h.elim
  | _ => trivial

/-- An answer that arrives in its activation leaves flights found afresh. -/
theorem Absorbs.foundAfresh {i : ℕ} {ticket : Ticket} {reply : Reply}
    {s₁ : TelemetrySubmitter} (h : s.FoundAfresh)
    (hticket : s.client.outstanding[i]? = some ticket)
    (hcond : s.SearchesAfresh (.answer i reply))
    (habsorbs : Absorbs (s.answered i ticket reply) ticket.request reply s₁) :
    s₁.FoundAfresh := by
  have hactivation := hcond ticket hticket
  have hhistory := habsorbs.history_subset
  have hanswered := habsorbs.answered_mem
  rcases ticket with ⟨request, activation, state⟩
  cases habsorbs with
  | activeFlights => exact fun _ => ⟨_, hanswered, hactivation rfl, rfl⟩
  | endActiveFlight =>
      intro hsome
      rw [Option.isSome_map] at hsome
      obtain ⟨entry, hentry, hfinds⟩ := h hsome
      exact ⟨entry, hhistory hentry, hfinds⟩
  | submitted =>
      refine foundAfresh_of_eq h rfl ?_ hhistory
      simp only [TelemetrySubmitter.access, Client.access]
      split <;> rfl
  | _ => exact foundAfresh_of_eq h rfl rfl hhistory

/-- What one step keeps: flights found afresh, creations after a search. -/
theorem Step.searchedAfresh {event : Event}
    (h : s.FoundAfresh ∧ Machine.Always Entry.SearchedAfresh s.client.history)
    (hcond : s.SearchesAfresh event) (hstep : Step s event s') :
    s'.FoundAfresh ∧ Machine.Always Entry.SearchedAfresh s'.client.history := by
  obtain ⟨hfound, halways⟩ := h
  cases hstep with
  | activate hchain =>
      have hhistory := enterActive_history s
      apply chain_searchedAfresh hchain
      · cases hstate : s.state with
        | active =>
            refine foundAfresh_of_eq hfound rfl ?_ (by rw [hhistory]; exact fun _ => id)
            simp [enterActive, Client.activate, hstate]
        | inactive =>
            intro hsome
            have hnone := hcond hstate
            rw [Option.isNone_iff_eq_none] at hnone
            have hflights : s.enterActive.activeFlights = none := hnone
            simp [hflights] at hsome
      · rw [hhistory]
        exact halways
  | deactivateInactive => exact ⟨hfound, halways⟩
  | deactivateEnding =>
      refine ⟨foundAfresh_of_eq hfound rfl rfl (List.subset_cons_self _ _), ?_,
        halways⟩
      intro hkind
      cases hkind
  | deactivate => exact ⟨hfound, halways⟩
  | submitInactive => exact ⟨hfound, halways⟩
  | submitUpdates =>
      exact ⟨foundAfresh_of_eq hfound rfl rfl (List.subset_cons_self _ _),
        trivial, halways⟩
  | submitRequesting hstate hmissing hchain =>
      exact chain_searchedAfresh hchain hfound halways
  | setMissionGeometry => exact ⟨hfound, halways⟩
  | answer hticket habsorbs hchain =>
      apply chain_searchedAfresh hchain (habsorbs.foundAfresh hfound hticket hcond)
      apply habsorbs.history.always
      · exact ⟨trivial, halways⟩
      · exact fun entry past hnote _ => Entry.searchedAfresh_of_isNote hnote past

/-- In every run that searches afresh, a creation is only issued after a search
of its own activation was answered. -/
theorem creation_searchedAfresh {credentials : Credentials}
    {aircraftId : String} {events : List Event}
    (hmeets : Machine.Meets step SearchesAfresh
      (create credentials aircraftId) events)
    (hrun : Machine.run step (create credentials aircraftId) events = some s) :
    Machine.Always Entry.SearchedAfresh s.client.history := by
  have hboth := invariant_of_step
    (fun s => s.FoundAfresh ∧
      Machine.Always Entry.SearchedAfresh s.client.history)
    (C := SearchesAfresh)
    (fun _ _ _ hinv hcond hstep => hstep.searchedAfresh hinv hcond)
    ⟨(nomatch ·), trivial⟩ hmeets hrun
  exact hboth.2

/-- The second activation goes from the pilot straight to the creation. -/
def leftoverRun : List Event :=
  [.submit ⟨350000000, -780000000, 0, 0⟩, .activate,
    .answer 0 (.authorization "token"), .answer 0 (.pilot "pilot"),
    .answer 0 (.flights []), .deactivate, .activate,
    .answer 1 (.authorization "token"), .answer 1 (.pilot "pilot")]

theorem creation_not_searchedAfresh :
    ∃ s, Machine.run step (create {} "aircraft") leftoverRun = some s ∧
      ¬ Machine.Always Entry.SearchedAfresh s.client.history :=
  Machine.exists_run (by decide)

/-- One activation that searches, ends the flight it finds and creates one. -/
def searchingRun : List Event :=
  [.submit ⟨350000000, -780000000, 0, 0⟩, .activate,
    .answer 0 (.authorization "token"), .answer 0 (.pilot "pilot"),
    .answer 0 (.flights [{ id := "old" }]), .answer 0 .ended]

theorem creation_searchedAfresh_searchingRun :
    ∃ s, Machine.run step (create {} "aircraft") searchingRun = some s ∧
      Machine.Always Entry.SearchedAfresh s.client.history := by
  obtain ⟨s, hrun⟩ : ∃ s,
      Machine.run step (create {} "aircraft") searchingRun = some s :=
    Option.isSome_iff_exists.mp (by decide)
  exact ⟨s, hrun, creation_searchedAfresh (by decide) hrun⟩

end Airmap.Monitor.TelemetrySubmitter
