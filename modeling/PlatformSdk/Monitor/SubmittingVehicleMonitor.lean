import PlatformSdk.Mavlink.Vehicle
import PlatformSdk.Monitor.TelemetrySubmitter.Steps

/-!
# The submitter behind a vehicle

`SubmittingVehicleMonitor` activates and deactivates the submitter on changes
of the status of the vehicle.  The module runs a vehicle, the monitor and the
submitter together and compares the state of the submitter with the status
that was reported last.
-/

namespace Airmap.Monitor

open Mavlink (Vehicle Notification Message)

/-- `SubmittingVehicleMonitor::on_system_status_changed`. -/
def onSystemStatusChanged (oldState : Option Mavlink.State) (newState : Mavlink.State)
    (submitter : TelemetrySubmitter) : TelemetrySubmitter :=
  match oldState with
  | none => submitter
  | some .uninit | some .boot | some .calibrating | some .standby =>
      if newState = .active then submitter.activate else submitter
  | some .active | some .critical | some .emergency =>
      match newState with
      | .uninit | .boot | .calibrating | .standby => submitter.deactivate
      | _ => submitter
  | some .poweroff | some (.other _ _) => submitter

/-- A `SubmittingVehicleMonitor` hands each call on to its submitter. -/
def handle (submitter : TelemetrySubmitter) : Notification → TelemetrySubmitter
  | .systemStatusChanged oldState newState =>
      onSystemStatusChanged oldState newState submitter
  | .positionChanged _ newPosition => submitter.submit newPosition
  | .missionReceived geometry => submitter.setMissionGeometry geometry

/-- A vehicle with one monitor and its submitter. -/
structure MonitoredVehicle where
  vehicle : Vehicle
  submitter : TelemetrySubmitter

namespace MonitoredVehicle

/-- A message of the vehicle, or an answer to a request of the submitter. -/
inductive Input where
  | message (message : Message)
  | answer (i : ℕ) (reply : Reply)

def step (m : MonitoredVehicle) : Input → Option MonitoredVehicle
  | .message message =>
      (m.vehicle.update message).map fun (vehicle, notifications) =>
        ⟨vehicle, notifications.foldl handle m.submitter⟩
  | .answer i reply =>
      (m.submitter.step (.answer i reply)).map fun submitter =>
        { m with submitter := submitter }

/-- A new vehicle with the given id and a new submitter. -/
def create (systemId : UInt8) (credentials : Credentials) (aircraftId : String) :
    MonitoredVehicle where
  vehicle := { systemId := systemId }
  submitter := .create credentials aircraftId

end MonitoredVehicle

/-! ## The law and the condition -/

namespace MonitoredVehicle

variable {m m' : MonitoredVehicle}

/-- The submitter is active if the vehicle is, and inactive on the ground. -/
def FollowsStatus (m : MonitoredVehicle) : Prop :=
  (m.vehicle.systemStatus = .active → m.submitter.state = .active) ∧
    (m.vehicle.systemStatus.IsGround → m.submitter.state = .inactive)

instance : DecidablePred FollowsStatus := fun _ =>
  inferInstanceAs (Decidable ((_ → _) ∧ (_ → _)))

/-- A heartbeat that should activate an inactive submitter follows a status on
the ground, and one that should deactivate an active submitter follows a
status in the air. -/
def ChangesDirectly (m : MonitoredVehicle) : Input → Prop
  | .message ⟨sysid, .heartbeat systemStatus⟩ =>
      sysid = m.vehicle.systemId →
        (Mavlink.State.ofCode systemStatus = .active → m.submitter.state = .inactive →
          m.vehicle.systemStatus.IsGround) ∧
        ((Mavlink.State.ofCode systemStatus).IsGround → m.submitter.state = .active →
          m.vehicle.systemStatus.IsAirborne)
  | _ => True

/-! ## What one message does -/

theorem onSystemStatusChanged_eq (oldState newState : Mavlink.State)
    (submitter : TelemetrySubmitter) :
    onSystemStatusChanged (some oldState) newState submitter =
      if oldState.IsGround ∧ newState = .active then submitter.activate
      else if oldState.IsAirborne ∧ newState.IsGround then submitter.deactivate
      else submitter := by
  cases oldState <;> cases newState <;>
    simp [onSystemStatusChanged, Mavlink.State.IsGround, Mavlink.State.IsAirborne]

/-- A heartbeat of the vehicle is either its status again or a change. -/
theorem step_heartbeat {sysid systemStatus : UInt8}
    (h : m.step (.message ⟨sysid, .heartbeat systemStatus⟩) = some m') :
    sysid = m.vehicle.systemId ∧
      m'.vehicle.systemStatus = Mavlink.State.ofCode systemStatus ∧
      m'.submitter =
        if m.vehicle.systemStatus = Mavlink.State.ofCode systemStatus then
          m.submitter
        else
          onSystemStatusChanged (some m.vehicle.systemStatus)
            (Mavlink.State.ofCode systemStatus) m.submitter := by
  simp only [step, Vehicle.update, Vehicle.handleMsgHeartbeat,
    Mavlink.State.code_eq_iff] at h
  split at h
  next hid =>
    refine ⟨hid.symm, ?_⟩
    split at h
    next hsame =>
      cases h
      simp [hsame]
    next hchange =>
      cases h
      simp [hchange, handle]
  next => cases h

/-- Every other message, and every answer, leaves the status alone and is at
most one event of the submitter, which keeps its state. -/
theorem step_quiet {input : Input} (h : m.step input = some m')
    (hinput : ∀ sysid systemStatus,
      input ≠ .message ⟨sysid, .heartbeat systemStatus⟩) :
    m'.vehicle.systemStatus = m.vehicle.systemStatus ∧
      (m'.submitter = m.submitter ∨
        ∃ event, m.submitter.step event = some m'.submitter ∧
          ∀ state, TelemetrySubmitter.stateAfter state event = state) := by
  cases input with
  | answer i reply =>
      obtain ⟨submitter, hsubmitter, rfl⟩ := Option.map_eq_some_iff.mp h
      exact ⟨rfl, Or.inr ⟨.answer i reply, hsubmitter, fun _ => rfl⟩⟩
  | message message =>
      obtain ⟨⟨vehicle, notifications⟩, hupdate, rfl⟩ :=
        Option.map_eq_some_iff.mp h
      rcases message with ⟨sysid, payload⟩
      simp only [Vehicle.update] at hupdate
      split at hupdate
      next =>
        cases payload with
        | heartbeat systemStatus => exact (hinput _ _ rfl).elim
        | globalPositionInt position =>
            cases hupdate
            exact ⟨rfl, Or.inr ⟨.submit position, rfl, fun _ => rfl⟩⟩
        | other =>
            cases hupdate
            exact ⟨rfl, Or.inl rfl⟩
        | missionClearAll | missionCount | missionItem =>
            have hsame := Option.some.inj hupdate
            obtain ⟨hstatus, hmission⟩ := Vehicle.handleMsgMission_cases _ m.vehicle
            rw [hsame] at hstatus hmission
            refine ⟨hstatus, ?_⟩
            rcases hmission with hnone | ⟨coordinates, hline⟩
            · exact Or.inl (by rw [show notifications = [] from hnone]; rfl)
            · refine Or.inr ⟨.setMissionGeometry (.lineString coordinates), ?_,
                fun _ => rfl⟩
              rw [show notifications = _ from hline]
              rfl
      next => cases hupdate

theorem step_endsKnown {input : Input} (h : m.step input = some m')
    (hknown : m.submitter.EndsKnown) : m'.submitter.EndsKnown := by
  have hevent : m'.submitter = m.submitter ∨
      ∃ event, m.submitter.step event = some m'.submitter := by
    by_cases hinput : ∃ sysid systemStatus,
        input = .message ⟨sysid, .heartbeat systemStatus⟩
    · obtain ⟨sysid, systemStatus, rfl⟩ := hinput
      rw [(step_heartbeat h).2.2, onSystemStatusChanged_eq]
      repeat' split
      · exact Or.inl rfl
      · exact Or.inr ⟨.activate, rfl⟩
      · exact Or.inr ⟨.deactivate, rfl⟩
      · exact Or.inl rfl
    · rcases (step_quiet h (by simpa using hinput)).2 with hsame | ⟨event, hstep, -⟩
      · exact Or.inl hsame
      · exact Or.inr ⟨event, hstep⟩
  rcases hevent with hsame | ⟨event, hstep⟩
  · rw [hsame]
    exact hknown
  · exact (TelemetrySubmitter.step_cases hknown hstep).endsKnown hknown

/-- After a heartbeat the submitter follows the status exactly when the status
changed directly. -/
theorem heartbeat_followsStatus_iff {sysid systemStatus : UInt8}
    (hknown : m.submitter.EndsKnown) (hfollows : m.FollowsStatus)
    (h : m.step (.message ⟨sysid, .heartbeat systemStatus⟩) = some m') :
    m'.FollowsStatus ↔
      m.ChangesDirectly (.message ⟨sysid, .heartbeat systemStatus⟩) := by
  obtain ⟨hid, hstatus, hsubmitter⟩ := step_heartbeat h
  obtain ⟨hactive, hground⟩ := hfollows
  simp only [FollowsStatus, ChangesDirectly, hid, hstatus, forall_const]
  generalize hnew : Mavlink.State.ofCode systemStatus = newState at *
  by_cases hsame : m.vehicle.systemStatus = newState
  · rw [if_pos hsame] at hsubmitter
    rw [hsame] at hactive hground
    rw [hsubmitter]
    refine iff_of_true ⟨hactive, hground⟩ ⟨?_, ?_⟩
    · intro hnewActive hinactive
      cases (hactive hnewActive).symm.trans hinactive
    · intro hnewGround hstateActive
      cases (hground hnewGround).symm.trans hstateActive
  · rw [if_neg hsame, onSystemStatusChanged_eq] at hsubmitter
    by_cases hup : m.vehicle.systemStatus.IsGround ∧ newState = .active
    · obtain ⟨hold, rfl⟩ := hup
      rw [if_pos ⟨hold, rfl⟩] at hsubmitter
      have hstate : m'.submitter.state = .active := by
        rw [hsubmitter, TelemetrySubmitter.activate_state hknown]
      exact iff_of_true ⟨fun _ => hstate, fun hg => hg.elim⟩
        ⟨fun _ _ => hold, fun hg => hg.elim⟩
    · rw [if_neg hup] at hsubmitter
      by_cases hdown : m.vehicle.systemStatus.IsAirborne ∧ newState.IsGround
      · rw [if_pos hdown] at hsubmitter
        have hstate : m'.submitter.state = .inactive := by
          rw [hsubmitter, TelemetrySubmitter.deactivate_state hknown]
        have hnot : newState ≠ .active := by
          rintro rfl
          exact hdown.2.elim
        exact iff_of_true ⟨fun hnewActive => absurd hnewActive hnot, fun _ => hstate⟩
          ⟨fun hnewActive => absurd hnewActive hnot, fun _ _ => hdown.1⟩
      · rw [if_neg hdown] at hsubmitter
        rw [hsubmitter]
        cases hstate : m.submitter.state with
        | active =>
            simp only [reduceCtorEq, imp_false, implies_true, false_implies,
              true_and, forall_const]
            exact ⟨fun hnot hg => (hnot hg).elim,
              fun hair hg => hdown ⟨hair hg, hg⟩⟩
        | inactive =>
            simp only [reduceCtorEq, imp_false, implies_true, false_implies,
              and_true, forall_const]
            exact ⟨fun hnot hnewActive => (hnot hnewActive).elim,
              fun hland hnewActive => hup ⟨hland hnewActive, hnewActive⟩⟩

theorem step_followsStatus_iff {input : Input} (hknown : m.submitter.EndsKnown)
    (hfollows : m.FollowsStatus) (h : m.step input = some m') :
    m'.FollowsStatus ↔ m.ChangesDirectly input := by
  by_cases hinput : ∃ sysid systemStatus,
      input = .message ⟨sysid, .heartbeat systemStatus⟩
  · obtain ⟨sysid, systemStatus, rfl⟩ := hinput
    exact heartbeat_followsStatus_iff hknown hfollows h
  · have hother : ∀ sysid systemStatus,
        input ≠ .message ⟨sysid, .heartbeat systemStatus⟩ := by
      simpa using hinput
    obtain ⟨hstatus, hsubmitter⟩ := step_quiet h hother
    have hstate : m'.submitter.state = m.submitter.state := by
      rcases hsubmitter with hsame | ⟨event, hstep, hkeeps⟩
      · rw [hsame]
      · rw [(TelemetrySubmitter.step_cases hknown hstep).state, hkeeps]
    refine iff_of_true ?_ ?_
    · rw [FollowsStatus, hstatus, hstate]
      exact hfollows
    · unfold ChangesDirectly
      split
      · exact (hother _ _ rfl).elim
      · trivial

/-- A heartbeat of another system is not delivered and meets the condition. -/
theorem changesDirectly_of_disabled {input : Input} (h : m.step input = none) :
    m.ChangesDirectly input := by
  unfold ChangesDirectly
  split
  next sysid systemStatus =>
    intro hid
    simp [step, Vehicle.update, hid] at h
  next => trivial

/-- The submitter follows the status of its vehicle exactly in the runs in
which the status changes directly. -/
theorem followsStatus_along_iff_changesDirectly (systemId : UInt8)
    (credentials : Credentials) (aircraftId : String) (inputs : List Input) :
    Machine.Along step FollowsStatus (create systemId credentials aircraftId)
        inputs ↔
      Machine.Meets step ChangesDirectly
        (create systemId credentials aircraftId) inputs := by
  apply Machine.along_iff_meets fun m => m.submitter.EndsKnown
  · exact fun m input m' hknown _ h _ => step_endsKnown h hknown
  · exact fun m input m' hknown hfollows h => step_followsStatus_iff hknown hfollows h
  · exact fun m input => changesDirectly_of_disabled
  · exact fun _ hticket => nomatch hticket
  · exact ⟨(nomatch ·), fun _ => rfl⟩

/-- A vehicle that becomes active by way of a critical status is not followed,
nor one that is back on the ground after it was powered off. -/
theorem status_not_followed :
    (∃ m, Machine.run step (create 1 {} "aircraft")
        [.message ⟨1, .heartbeat 3⟩, .message ⟨1, .heartbeat 5⟩,
          .message ⟨1, .heartbeat 4⟩] = some m ∧ ¬ m.FollowsStatus) ∧
      ∃ m, Machine.run step (create 1 {} "aircraft")
        [.message ⟨1, .heartbeat 3⟩, .message ⟨1, .heartbeat 4⟩,
          .message ⟨1, .heartbeat 7⟩, .message ⟨1, .heartbeat 3⟩] = some m ∧
        ¬ m.FollowsStatus :=
  ⟨Machine.exists_run (by decide), Machine.exists_run (by decide)⟩

end MonitoredVehicle
end Airmap.Monitor
