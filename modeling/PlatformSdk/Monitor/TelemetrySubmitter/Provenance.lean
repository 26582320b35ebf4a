import PlatformSdk.Machine.Simulation
import PlatformSdk.Monitor.TelemetrySubmitter.Steps

/-!
# Where the telemetry of a submitter comes from

Every update that a submitter sends has a position that was submitted to it, and a
flight and a key that answers to its own requests brought.  The positions are sent
in the order in which they were submitted, none of them twice.
-/

namespace Airmap.Monitor.TelemetrySubmitter

variable {s s' : TelemetrySubmitter} {events : List Event}

/-- The position that an event submits. -/
def Event.position : Event → Option Mavlink.GlobalPositionInt
  | .submit position => some position
  | .activate | .deactivate | .setMissionGeometry _ | .answer _ _ => none

/-- The reply that an event brings. -/
def Event.reply : Event → Option Reply
  | .answer _ reply => some reply
  | .activate | .deactivate | .submit _ | .setMissionGeometry _ => none

/-- The position that was sent. -/
def Entry.position : Entry → Option Mavlink.GlobalPositionInt
  | .submittedUpdates _ _ position => some position
  | .issued _ | .answered _ _ | .subscribed _ | .undefined _ => none

/-- The reply brings this flight, by creating it or by submitting its plan. -/
def BringsFlight (reply : Reply) (flight : Flight) : Prop :=
  ∃ request, reportedFlight request reply = some flight

/-- What is stored and what was sent comes from these replies and positions. -/
structure ComesFrom (replies : List Reply) (positions : List Mavlink.GlobalPositionInt)
    (s : TelemetrySubmitter) : Prop where
  flight : ∀ flight, s.flight = some flight → ∃ reply ∈ replies, BringsFlight reply flight
  encryptionKey : ∀ key, s.encryptionKey = some key → .key key ∈ replies
  sent : ∀ flight key position, .submittedUpdates flight key position ∈ s.client.history →
    (∃ reply ∈ replies, BringsFlight reply flight) ∧ .key key ∈ replies
  inOrder : (s.client.history.filterMap Entry.position).reverse.Sublist positions

theorem Entry.position_of_isOwn {entry : Entry} (h : Entry.IsOwn entry) :
    Entry.position entry = none := by
  cases entry with
  | submittedUpdates => exact h.elim
  | _ => rfl

/-- Only a returned key changes the stored one. -/
theorem Absorbs.encryptionKey_cases {request : Request} {reply : Reply}
    (h : Absorbs s request reply s') :
    s'.encryptionKey = s.encryptionKey ∨
      ∃ key, reply = .key key ∧ s'.encryptionKey = some key := by
  cases h with
  | encryptionKey => exact Or.inr ⟨_, rfl, rfl⟩
  | _ => exact Or.inl rfl

variable {replies replies' : List Reply} {positions positions' : List Mavlink.GlobalPositionInt}

/-- What nothing was added to by the submitter itself comes from more replies and
positions as well. -/
theorem ComesFrom.mono (h : ComesFrom replies positions s) (hreplies : replies ⊆ replies')
    (hpositions : positions.Sublist positions')
    (hflight : ∀ flight, s'.flight = some flight → s.flight = some flight)
    (hkey : ∀ key, s'.encryptionKey = some key → s.encryptionKey = some key)
    (hhistory : Machine.GrowsBy (fun entry => Entry.position entry = none)
      s.client.history s'.client.history) : ComesFrom replies' positions' s' where
  flight := by
    intro flight hsome
    obtain ⟨reply, hmem, hbrings⟩ := h.flight flight (hflight flight hsome)
    exact ⟨reply, hreplies hmem, hbrings⟩
  encryptionKey := fun key hsome => hreplies (h.encryptionKey key (hkey key hsome))
  sent := by
    obtain ⟨entries, heq, hentries⟩ := hhistory
    intro flight key position hmem
    rw [heq] at hmem
    rcases List.mem_append.mp hmem with hnew | hold
    · cases hentries _ hnew
    · obtain ⟨⟨reply, hreply, hbrings⟩, hreturned⟩ := h.sent flight key position hold
      exact ⟨⟨reply, hreplies hreply, hbrings⟩, hreplies hreturned⟩
  inOrder := by
    rw [hhistory.filterMap_eq fun _ hnone => hnone]
    exact h.inOrder.trans hpositions

theorem ComesFrom.extends (h : ComesFrom replies positions s) (hextends : Extends s s') :
    ComesFrom replies positions s' := by
  apply h.mono (fun _ hmem => hmem) (List.Sublist.refl _)
  · intro flight hflight
    rw [← hflight]
    exact (congrArg Stored.flight hextends.stored).symm
  · intro key hkey
    rw [← hkey]
    exact (congrArg Stored.encryptionKey hextends.stored).symm
  · exact hextends.own.mono fun _ => Entry.position_of_isOwn

/-- What a callback stores comes from its reply. -/
theorem ComesFrom.absorbs (h : ComesFrom replies positions s) {i : ℕ} {ticket : Ticket}
    {reply : Reply}
    (habsorbs : Absorbs (s.answered i ticket reply) ticket.request reply s') :
    ComesFrom (replies ++ [reply]) positions s' := by
  have hgrows : Machine.GrowsBy (fun entry => Entry.position entry = none)
      s.client.history s'.client.history :=
    Machine.GrowsBy.trans ((Machine.GrowsBy.refl _).cons rfl)
      (habsorbs.own.mono fun _ => Entry.position_of_isOwn)
  have hmono : ComesFrom (replies ++ [reply]) positions
      { s' with flight := s.flight, encryptionKey := s.encryptionKey } :=
    h.mono (List.subset_append_left _ _) (List.Sublist.refl _) (fun _ hsome => hsome)
      (fun _ hsome => hsome) hgrows
  refine ⟨?_, ?_, hmono.sent, hmono.inOrder⟩
  · intro flight hsome
    rcases habsorbs.flight_cases with ⟨-, hsame⟩ | ⟨flight', hreported, hflight⟩
    · exact hmono.flight flight (hsame.symm.trans hsome)
    · rw [hflight, Option.some.injEq] at hsome
      subst hsome
      exact ⟨reply, by simp, ticket.request, hreported⟩
  · intro key hsome
    rcases habsorbs.encryptionKey_cases with hsame | ⟨key', rfl, hkey⟩
    · exact hmono.encryptionKey key (hsame.symm.trans hsome)
    · rw [hkey, Option.some.injEq] at hsome
      subst hsome
      simp

theorem Step.comesFrom {event : Event} (h : ComesFrom replies positions s)
    (hstep : Step s event s') :
    ComesFrom (replies ++ [event].filterMap Event.reply)
      (positions ++ [event].filterMap Event.position) s' := by
  have hreplies : replies ⊆ replies ++ [event].filterMap Event.reply :=
    List.subset_append_left _ _
  have hpositions : positions.Sublist (positions ++ [event].filterMap Event.position) :=
    List.sublist_append_left _ _
  have hkept : ComesFrom (replies ++ [event].filterMap Event.reply)
      (positions ++ [event].filterMap Event.position) s :=
    h.mono hreplies hpositions (fun _ hsome => hsome) (fun _ hsome => hsome) (.refl _)
  cases hstep with
  | activate hchain =>
      refine ComesFrom.extends ?_ (chain_extends hchain)
      have hhistory := enterActive_history s
      exact h.mono hreplies hpositions (fun _ hsome => hsome) (fun _ hsome => hsome)
        (by rw [hhistory]; exact .refl _)
  | deactivateInactive => exact hkept
  | deactivateEnding =>
      exact h.mono hreplies hpositions (by intro _ hsome; cases hsome)
        (by intro _ hsome; cases hsome) ((Machine.GrowsBy.refl _).cons rfl)
  | deactivate =>
      exact h.mono hreplies hpositions (by intro _ hsome; cases hsome)
        (by intro _ hsome; cases hsome) (.refl _)
  | submitInactive =>
      exact h.mono hreplies hpositions (fun _ hsome => hsome) (fun _ hsome => hsome) (.refl _)
  | @submitUpdates position authorization flight key hstate hauthorization hflight hkey =>
      refine ⟨hkept.flight, hkept.encryptionKey, ?_, ?_⟩
      · intro flight' key' position' hmem
        rcases List.mem_cons.mp hmem with hnew | hold
        · cases hnew
          exact ⟨hkept.flight flight hflight, hkept.encryptionKey key hkey⟩
        · exact hkept.sent flight' key' position' hold
      · have hnew : (s.client.history.filterMap Entry.position).reverse ++ [position] =
            ((Entry.submittedUpdates flight key position ::
              s.client.history).filterMap Entry.position).reverse := by
          simp [Entry.position]
        exact hnew ▸ h.inOrder.append (List.Sublist.refl _)
  | submitRequesting hstate hmissing hchain =>
      refine ComesFrom.extends ?_ (chain_extends hchain)
      exact h.mono hreplies hpositions (fun _ hsome => hsome) (fun _ hsome => hsome) (.refl _)
  | setMissionGeometry =>
      exact h.mono hreplies hpositions (fun _ hsome => hsome) (fun _ hsome => hsome) (.refl _)
  | @answer i ticket reply s₁ s' hticket habsorbs hchain =>
      have hnone : [Event.answer i reply].filterMap Event.position = [] := rfl
      rw [hnone, List.append_nil]
      exact (h.absorbs habsorbs).extends (chain_extends hchain)

/-- What a submitter sends in a run comes from the answers and the positions of this
run. -/
theorem comesFrom_run {credentials : Credentials} {aircraftId : String}
    (hrun : Machine.run step (create credentials aircraftId) events = some s) :
    ComesFrom (events.filterMap Event.reply) (events.filterMap Event.position) s := by
  have hboth := Machine.run_history
    (fun events s => s.EndsKnown ∧
      ComesFrom (events.filterMap Event.reply) (events.filterMap Event.position) s)
    (s := create credentials aircraftId) ⟨by simp [EndsKnown, create], ?_⟩ ?_ hrun
  · exact hboth.2
  · refine ⟨by simp [create], by simp [create], by simp [create], by simp [create]⟩
  · rintro es mid event last ⟨hknown, hcomes⟩ hstep
    have hcases := step_cases hknown hstep
    rw [List.filterMap_append, List.filterMap_append]
    exact ⟨hcases.endsKnown hknown, hcases.comesFrom hcomes⟩

end Airmap.Monitor.TelemetrySubmitter
