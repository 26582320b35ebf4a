import PlatformSdk.Monitor.Daemon
import PlatformSdk.Monitor.TelemetrySubmitter.Provenance

/-!
# The telemetry that a daemon sends

A run of a monitored vehicle makes its submitter take events of its own: the positions
that the vehicle reported and the replies that came for it.  The module follows the
telemetry of each submitter of a daemon back to the messages of one vehicle.
-/

namespace Airmap.Monitor

open Machine
open Mavlink (Vehicle TrackedVehicle Message Notification)

/-- What a notification makes the submitter take. -/
theorem exists_events_handle (submitter : TelemetrySubmitter) (notification : Notification) :
    ∃ events, run TelemetrySubmitter.step submitter events =
        some (handle submitter notification) ∧
      events.filterMap TelemetrySubmitter.Event.reply = [] ∧
      events.filterMap TelemetrySubmitter.Event.position =
        [notification].filterMap Notification.position := by
  rcases notification with ⟨oldState, newState⟩ | ⟨oldPosition, newPosition⟩ | ⟨geometry⟩
  · cases oldState with
    | none => exact ⟨[], rfl, rfl, rfl⟩
    | some oldState =>
        simp only [handle, MonitoredVehicle.onSystemStatusChanged_eq]
        split
        · exact ⟨[.activate], rfl, rfl, rfl⟩
        · split
          · exact ⟨[.deactivate], rfl, rfl, rfl⟩
          · exact ⟨[], rfl, rfl, rfl⟩
  · exact ⟨[.submit newPosition], rfl, rfl, rfl⟩
  · exact ⟨[.setMissionGeometry geometry], rfl, rfl, rfl⟩

theorem exists_events_foldl (submitter : TelemetrySubmitter)
    (notifications : List Notification) :
    ∃ events, run TelemetrySubmitter.step submitter events =
        some (notifications.foldl handle submitter) ∧
      events.filterMap TelemetrySubmitter.Event.reply = [] ∧
      events.filterMap TelemetrySubmitter.Event.position =
        notifications.filterMap Notification.position := by
  induction notifications generalizing submitter with
  | nil => exact ⟨[], rfl, rfl, rfl⟩
  | cons notification notifications ih =>
      obtain ⟨first, hfirst, hreplies, hpositions⟩ :=
        exists_events_handle submitter notification
      obtain ⟨rest, hrest, hreplies', hpositions'⟩ := ih (handle submitter notification)
      refine ⟨first ++ rest, ?_, ?_, ?_⟩
      · rw [run_append hfirst, hrest, List.foldl_cons]
      · rw [List.filterMap_append, hreplies, hreplies', List.append_nil]
      · rw [List.filterMap_append, hpositions, hpositions', ← List.filterMap_append,
          List.singleton_append]

namespace MonitoredVehicle

/-- The position that an input reports. -/
def Input.position : Input → Option Mavlink.GlobalPositionInt
  | .message incoming => incoming.position
  | .answer _ _ => none

/-- The reply that an input brings. -/
def Input.reply : Input → Option Reply
  | .message _ => none
  | .answer _ reply => some reply

theorem exists_events_step {m m' : MonitoredVehicle} {input : Input}
    (h : m.step input = some m') :
    ∃ events, run TelemetrySubmitter.step m.submitter events = some m'.submitter ∧
      events.filterMap TelemetrySubmitter.Event.reply = [input].filterMap Input.reply ∧
      events.filterMap TelemetrySubmitter.Event.position =
        [input].filterMap Input.position := by
  rcases input with message | ⟨i, reply⟩
  · obtain ⟨⟨vehicle, notifications⟩, hupdate, rfl⟩ := Option.map_eq_some_iff.mp h
    obtain ⟨events, hrun, hreplies, hpositions⟩ :=
      exists_events_foldl m.submitter notifications
    exact ⟨events, hrun, hreplies, hpositions.trans (Vehicle.update_positions hupdate)⟩
  · obtain ⟨submitter, hsubmitter, rfl⟩ := Option.map_eq_some_iff.mp h
    exact ⟨[.answer i reply], by rw [run_cons_of_eq hsubmitter, run_nil], rfl, rfl⟩

/-- A run of a monitored vehicle is a run of its submitter over the positions and the
replies of its inputs. -/
theorem exists_events_run {m m' : MonitoredVehicle} {inputs : List Input}
    (h : run step m inputs = some m') :
    ∃ events, run TelemetrySubmitter.step m.submitter events = some m'.submitter ∧
      events.filterMap TelemetrySubmitter.Event.reply = inputs.filterMap Input.reply ∧
      events.filterMap TelemetrySubmitter.Event.position =
        inputs.filterMap Input.position := by
  induction inputs generalizing m with
  | nil =>
      cases h
      exact ⟨[], rfl, rfl, rfl⟩
  | cons input inputs ih =>
      obtain ⟨next, hnext, hrest⟩ := run_cons h
      obtain ⟨first, hfirst, hreplies, hpositions⟩ := exists_events_step hnext
      obtain ⟨rest, hrun, hreplies', hpositions'⟩ := ih hrest
      refine ⟨first ++ rest, ?_, ?_, ?_⟩
      · rw [run_append hfirst, hrun]
      · rw [List.filterMap_append, hreplies, hreplies', ← List.filterMap_append,
          List.singleton_append]
      · rw [List.filterMap_append, hpositions, hpositions', ← List.filterMap_append,
          List.singleton_append]

end MonitoredVehicle

namespace Daemon

variable {credentials : Credentials} {aircraftId : String} {events : List Event} {d : Daemon}

/-- The position that a vehicle reports in an event. -/
def Event.positionOf (systemId : UInt8) : Event → Option Mavlink.GlobalPositionInt
  | .message incoming => if incoming.sysid = systemId then incoming.position else none
  | .answer _ _ _ => none

/-- The reply that an event brings to the submitter with the given number. -/
def Event.replyTo (number : ℕ) : Event → Option Reply
  | .message _ => none
  | .answer number' _ reply => if number' = number then some reply else none

theorem filterMap_inputOf_position (systemId : UInt8) (number : ℕ) (events : List Event) :
    (events.filterMap (inputOf systemId number)).filterMap MonitoredVehicle.Input.position =
      events.filterMap (Event.positionOf systemId) := by
  rw [List.filterMap_filterMap]
  congr 1
  funext event
  rcases event with message | ⟨number', i, reply⟩
  · by_cases h : message.sysid = systemId <;>
      simp [inputOf, Event.positionOf, h, MonitoredVehicle.Input.position]
  · by_cases h : number' = number <;>
      simp [inputOf, Event.positionOf, h, MonitoredVehicle.Input.position]

theorem filterMap_inputOf_reply (systemId : UInt8) (number : ℕ) (events : List Event) :
    (events.filterMap (inputOf systemId number)).filterMap MonitoredVehicle.Input.reply =
      events.filterMap (Event.replyTo number) := by
  rw [List.filterMap_filterMap]
  congr 1
  funext event
  rcases event with message | ⟨number', i, reply⟩
  · by_cases h : message.sysid = systemId <;>
      simp [inputOf, Event.replyTo, h, MonitoredVehicle.Input.reply]
  · by_cases h : number' = number <;>
      simp [inputOf, Event.replyTo, h, MonitoredVehicle.Input.reply]

/-- What a submitter of a daemon knows and sent comes from its vehicle and from the replies
for it. -/
theorem comesFrom_submitter
    (hrun : run step (create credentials aircraftId) events = some d)
    {systemId : UInt8} {vehicle : Vehicle} {number : ℕ} {submitter : TelemetrySubmitter}
    (hvehicle : d.vehicleTracker.vehicles systemId = some ⟨vehicle, [number]⟩)
    (hsubmitter : d.submitters[number]? = some submitter) :
    TelemetrySubmitter.ComesFrom (events.filterMap (Event.replyTo number))
      (events.filterMap (Event.positionOf systemId)) submitter := by
  obtain ⟨submitter', hsubmitter', hown⟩ :=
    (composed_run hrun).composed systemId vehicle number hvehicle
  rw [hsubmitter, Option.some.injEq] at hsubmitter'
  subst hsubmitter'
  obtain ⟨own, hrunOwn, hreplies, hpositions⟩ := MonitoredVehicle.exists_events_run hown
  have hcomes := TelemetrySubmitter.comesFrom_run hrunOwn
  rwa [hreplies, hpositions, filterMap_inputOf_position, filterMap_inputOf_reply] at hcomes

/-- In every run of a daemon the positions that the submitter of a vehicle has sent were
reported by this vehicle, and were sent in the order in which they were reported, each
report at most once.  Each of them was sent for a flight and with a key that replies to
this submitter brought. -/
theorem telemetry_ofVehicle
    (hrun : run step (create credentials aircraftId) events = some d)
    {systemId : UInt8} {vehicle : Vehicle} {number : ℕ} {submitter : TelemetrySubmitter}
    (hvehicle : d.vehicleTracker.vehicles systemId = some ⟨vehicle, [number]⟩)
    (hsubmitter : d.submitters[number]? = some submitter) :
    (submitter.client.history.filterMap TelemetrySubmitter.Entry.position).reverse.Sublist
        (events.filterMap (Event.positionOf systemId)) ∧
      ∀ flight key position, .submittedUpdates flight key position ∈
          submitter.client.history →
        (∃ reply ∈ events.filterMap (Event.replyTo number),
          TelemetrySubmitter.BringsFlight reply flight) ∧
        .key key ∈ events.filterMap (Event.replyTo number) :=
  have hcomes := comesFrom_submitter hrun hvehicle hsubmitter
  ⟨hcomes.inOrder, hcomes.sent⟩

/-- Two vehicles report positions; the first one becomes active and gets a flight and a
key before it reports again. -/
def twoVehiclesRun : List Event :=
  [.message ⟨1, .globalPositionInt ⟨350000000, -780000000, 0, 0⟩⟩,
    .message ⟨1, .heartbeat 4⟩,
    .message ⟨2, .globalPositionInt ⟨10000000, 20000000, 0, 0⟩⟩,
    .answer 0 0 (.authorization "token"), .answer 0 0 (.pilot "pilot"),
    .answer 0 0 (.flights []), .answer 0 0 (.flight { id := "first" }),
    .answer 0 1 (.key "key"),
    .message ⟨2, .globalPositionInt ⟨10000001, 20000000, 0, 0⟩⟩,
    .message ⟨1, .globalPositionInt ⟨350000001, -780000000, 0, 0⟩⟩]

theorem telemetry_ofVehicle_twoVehiclesRun :
    ∃ d vehicle submitter, run step (create {} "aircraft") twoVehiclesRun = some d ∧
      d.vehicleTracker.vehicles 1 = some ⟨vehicle, [0]⟩ ∧
      d.submitters[0]? = some submitter ∧
      (submitter.client.history.filterMap
        TelemetrySubmitter.Entry.position).reverse.Sublist
          (twoVehiclesRun.filterMap (Event.positionOf 1)) := by
  have hdecide : (run step (create {} "aircraft") twoVehiclesRun).map (fun d =>
      decide ((d.vehicleTracker.vehicles 1).map TrackedVehicle.monitors = some [0] ∧
        0 < d.submitters.length)) = some true := by
    decide
  obtain ⟨d, hrun, hmonitors, hlength⟩ := exists_run hdecide
  obtain ⟨⟨vehicle, monitors⟩, hvehicle, rfl⟩ := Option.map_eq_some_iff.mp hmonitors
  have hsubmitter := List.getElem?_eq_getElem hlength
  exact ⟨d, vehicle, _, hrun, hvehicle, hsubmitter,
    (telemetry_ofVehicle hrun hvehicle hsubmitter).1⟩

end Daemon
end Airmap.Monitor
