import Mathlib.Data.List.Basic
import PlatformSdk.Machine.Simulation
import PlatformSdk.Mavlink.VehicleTracker
import PlatformSdk.Monitor.SubmittingVehicleMonitor

/-!
# The daemon

`monitor::Daemon` gives each MAVLink message to its tracker and makes a submitter
for each vehicle that the tracker adds.  The module shows that a daemon is as many
monitored vehicles as system ids were heard of, and that no two of them share
anything.
-/

namespace Airmap.Monitor

open Machine
open Mavlink (Vehicle VehicleTracker TrackedVehicle MonitorCall Message Notification)

/-- `Daemon`, with the submitters in the order in which they were created.  The
`SubmittingVehicleMonitor` of a submitter is known by its number; the tracker has one
monitor, the `vehicle_tracker_monitor_` that hands its calls on to the daemon. -/
structure Daemon where
  credentials : Credentials
  aircraftId : String
  vehicleTracker : VehicleTracker Unit ℕ := { monitors := [()] }
  submitters : List TelemetrySubmitter := []

namespace Daemon

/-- What `on_vehicle_added` registers with the vehicle: the monitor of the submitter
that comes next. -/
def registers (d : Daemon) : Unit → UInt8 → List ℕ :=
  fun _ _ => [d.submitters.length]

/-- A call on a monitor: `Daemon::on_vehicle_added`, or a call on the
`SubmittingVehicleMonitor` with the given number. -/
def handleCall (d : Daemon) : MonitorCall Unit ℕ → Daemon
  | .onVehicleAdded () _ =>
      { d with submitters := d.submitters ++ [.create d.credentials d.aircraftId] }
  | .notify number notification =>
      { d with submitters := d.submitters.modify number (handle · notification) }

/-- `Daemon::handle_mavlink_message`; `none` where the assertion of the vehicle
fails. -/
def handleMavlinkMessage (message : Message) (d : Daemon) : Option Daemon :=
  match d.vehicleTracker.update d.registers message with
  | none => none
  | some (vehicleTracker, calls) =>
      some (calls.foldl handleCall { d with vehicleTracker := vehicleTracker })

/-- A message from the channel, or an answer to the `i`-th outstanding request of
the submitter with the given number. -/
inductive Event where
  | message (message : Message)
  | answer (number i : ℕ) (reply : Reply)

def step (d : Daemon) : Event → Option Daemon
  | .message message => d.handleMavlinkMessage message
  | .answer number i reply =>
      match d.submitters[number]? with
      | none => none
      | some submitter =>
          (submitter.step (.answer i reply)).map fun submitter =>
            { d with submitters := d.submitters.set number submitter }

/-- A daemon that was just created. -/
def create (credentials : Credentials) (aircraftId : String) : Daemon where
  credentials := credentials
  aircraftId := aircraftId

/-- The system id that is heard of with an event. -/
def Event.sysid : Event → Option UInt8
  | .message m => some m.sysid
  | .answer _ _ _ => none

/-- The system ids that were heard of, in the order in which they first were. -/
def heardOf (events : List Event) : List UInt8 := (events.filterMap Event.sysid).eraseDups

/-- What an event is for the vehicle with the given system id, whose submitter has
the given number. -/
def inputOf (systemId : UInt8) (number : ℕ) : Event → Option MonitoredVehicle.Input
  | .message message => if message.sysid = systemId then some (.message message) else none
  | .answer number' i reply => if number' = number then some (.answer i reply) else none

/-! ## What one step does -/

variable {d d' : Daemon}

/-- The notifications of a vehicle reach its submitter one after the other. -/
theorem foldl_handleCall_notify (d : Daemon) (number : ℕ)
    (notifications : List Notification) :
    (notifications.map (MonitorCall.notify number)).foldl handleCall d =
      { d with submitters := d.submitters.modify number fun submitter =>
          notifications.foldl handle submitter } := by
  induction notifications generalizing d with
  | nil =>
      have hid : d.submitters.modify number id = d.submitters :=
        List.modify_id number d.submitters
      exact congrArg (fun submitters => { d with submitters := submitters }) hid.symm
  | cons notification notifications ih =>
      rw [List.map_cons, List.foldl_cons, ih]
      simp only [handleCall, List.modify_modify_eq]
      rfl

/-- The vehicle that a message is for, and its submitter, before the message is
handled: both are new for a system id that was not heard of. -/
inductive Receives (d : Daemon) (systemId : UInt8) :
    Vehicle → ℕ → List TelemetrySubmitter → Prop where
  | known {vehicle : Vehicle} {number : ℕ}
      (hknown : d.vehicleTracker.vehicles systemId = some ⟨vehicle, [number]⟩) :
      Receives d systemId vehicle number d.submitters
  | added (hnew : d.vehicleTracker.vehicles systemId = none) :
      Receives d systemId { systemId := systemId } d.submitters.length
        (d.submitters ++ [.create d.credentials d.aircraftId])

/-- Each vehicle has one monitor, and the system id that it is found under. -/
structure WellTracked (d : Daemon) : Prop where
  monitors : d.vehicleTracker.monitors = [()]
  keyed : VehicleTracker.IsKeyed d.vehicleTracker.vehicles
  single : ∀ systemId tracked, d.vehicleTracker.vehicles systemId = some tracked →
    ∃ number, tracked.monitors = [number]

theorem WellTracked.receives (h : d.WellTracked) (systemId : UInt8) :
    ∃ vehicle number submitters, Receives d systemId vehicle number submitters ∧
      vehicle.systemId = systemId := by
  cases hentry : d.vehicleTracker.vehicles systemId with
  | none => exact ⟨_, _, _, .added hentry, rfl⟩
  | some tracked =>
      obtain ⟨number, hnumber⟩ := h.single systemId tracked hentry
      have hid := h.keyed systemId tracked hentry
      rcases tracked with ⟨vehicle, monitors⟩
      cases hnumber
      exact ⟨_, _, _, .known hentry, hid⟩

/-- The daemon after the vehicle of a system id took a message. -/
def received (d : Daemon) (systemId : UInt8) (vehicle : Vehicle) (number : ℕ)
    (submitters : List TelemetrySubmitter) (notifications : List Notification) : Daemon :=
  { d with
    vehicleTracker :=
      { d.vehicleTracker with
        vehicles := Function.update d.vehicleTracker.vehicles systemId
          (some ⟨vehicle, [number]⟩) }
    submitters := submitters.modify number fun submitter =>
      notifications.foldl handle submitter }

section Received

variable (d : Daemon) (systemId : UInt8) (vehicle : Vehicle) (number : ℕ)
  (submitters : List TelemetrySubmitter) (notifications : List Notification)

theorem vehicles_received_self :
    (d.received systemId vehicle number submitters
      notifications).vehicleTracker.vehicles systemId = some ⟨vehicle, [number]⟩ :=
  Function.update_self ..

theorem vehicles_received_of_ne {systemId' : UInt8} (h : systemId' ≠ systemId) :
    (d.received systemId vehicle number submitters
        notifications).vehicleTracker.vehicles systemId' =
      d.vehicleTracker.vehicles systemId' :=
  Function.update_of_ne h _ _

theorem length_submitters_received :
    (d.received systemId vehicle number submitters notifications).submitters.length =
      submitters.length := List.length_modify ..

end Received

/-- A vehicle with one monitor makes each notification to this one. -/
theorem trackedUpdate_single {message : Message} {vehicle vehicle' : Vehicle}
    {notifications : List Notification}
    (hupdate : vehicle.update message = some (vehicle', notifications)) (number : ℕ) :
    TrackedVehicle.update (μ := Unit) ⟨vehicle, [number]⟩ message =
      some (⟨vehicle', [number]⟩, notifications.map (.notify number)) := by
  have hcalls : (notifications.flatMap fun notification =>
      [number].map fun monitor => MonitorCall.notify (μ := Unit) monitor notification) =
        notifications.map (.notify number) := List.map_eq_flatMap.symm
  simp only [TrackedVehicle.update, hupdate, hcalls]

/-- A message is handled by the vehicle of its system id; what this vehicle notifies
reaches its submitter. -/
theorem handleMavlinkMessage_eq (hmonitors : d.vehicleTracker.monitors = [()])
    {message : Message} {vehicle vehicle' : Vehicle} {number : ℕ}
    {submitters : List TelemetrySubmitter} {notifications : List Notification}
    (hreceives : Receives d message.sysid vehicle number submitters)
    (hupdate : vehicle.update message = some (vehicle', notifications)) :
    d.handleMavlinkMessage message =
      some (d.received message.sysid vehicle' number submitters notifications) := by
  rcases hreceives with hknown | hnew
  · simp only [handleMavlinkMessage, VehicleTracker.update, hknown,
      VehicleTracker.findOrEmplace, trackedUpdate_single hupdate, List.nil_append,
      Option.some.injEq]
    exact foldl_handleCall_notify _ number notifications
  · have hfound : VehicleTracker.findOrEmplace d.registers d.vehicleTracker.monitors
        message.sysid none =
          (⟨{ systemId := message.sysid }, [d.submitters.length]⟩,
            [.onVehicleAdded () message.sysid]) := by
      rw [hmonitors]
      rfl
    simp only [handleMavlinkMessage, VehicleTracker.update, hnew, hfound,
      trackedUpdate_single hupdate, List.cons_append, List.nil_append, List.foldl_cons,
      Option.some.injEq]
    exact foldl_handleCall_notify _ d.submitters.length notifications

/-- A message for a vehicle is an event of the monitored vehicle. -/
theorem monitoredVehicle_step {message : Message} {vehicle vehicle' : Vehicle}
    {notifications : List Notification}
    (hupdate : vehicle.update message = some (vehicle', notifications))
    (submitter : TelemetrySubmitter) :
    MonitoredVehicle.step ⟨vehicle, submitter⟩ (.message message) =
      some ⟨vehicle', notifications.foldl handle submitter⟩ := by
  simp only [MonitoredVehicle.step, hupdate, Option.map_some]

/-! ## Whole runs -/

theorem heardOf_answer (events : List Event) (number i : ℕ) (reply : Reply) :
    heardOf (events ++ [.answer number i reply]) = heardOf events := by
  rw [heardOf, filterMap_concat_none rfl, heardOf]

/-- A system id is heard of again, or is the last one that was heard of first. -/
theorem heardOf_message (events : List Event) (message : Message) :
    heardOf (events ++ [.message message]) =
      heardOf events ++ if message.sysid ∈ heardOf events then [] else [message.sysid] := by
  have hsysid : (Event.message message).sysid = some message.sysid := rfl
  rw [heardOf, filterMap_concat_some hsysid, List.eraseDups_append, heardOf]
  generalize events.filterMap Event.sysid = sysids
  by_cases h : message.sysid ∈ sysids
  · simp [List.removeAll, h]
  · simp [List.removeAll, List.eraseDups_cons, h]

/-- After these events each system id that was heard of has a vehicle and a
submitter, which are those of a monitored vehicle that took the events meant for it;
the submitters are in the order in which the system ids were first heard of. -/
structure Composed (credentials : Credentials) (aircraftId : String)
    (events : List Event) (d : Daemon) : Prop extends WellTracked d where
  credentials_eq : d.credentials = credentials
  aircraftId_eq : d.aircraftId = aircraftId
  length_eq : d.submitters.length = (heardOf events).length
  numbered : ∀ systemId number, (heardOf events)[number]? = some systemId ↔
    ∃ vehicle, d.vehicleTracker.vehicles systemId = some ⟨vehicle, [number]⟩
  answered : ∀ number i reply, .answer number i reply ∈ events →
    number < d.submitters.length
  composed : ∀ systemId vehicle number,
    d.vehicleTracker.vehicles systemId = some ⟨vehicle, [number]⟩ →
      ∃ submitter, d.submitters[number]? = some submitter ∧
        run MonitoredVehicle.step (.create systemId credentials aircraftId)
          (events.filterMap (inputOf systemId number)) = some ⟨vehicle, submitter⟩

theorem composed_create (credentials : Credentials) (aircraftId : String) :
    Composed credentials aircraftId [] (create credentials aircraftId) where
  monitors := rfl
  keyed := by
    intro systemId tracked h
    cases h
  single := by
    intro systemId tracked h
    cases h
  credentials_eq := rfl
  aircraftId_eq := rfl
  length_eq := rfl
  numbered := by simp [heardOf, create]
  answered := by simp
  composed := by
    intro systemId vehicle number h
    cases h

variable {credentials : Credentials} {aircraftId : String} {events : List Event}

/-- A system id has a vehicle just when it was heard of. -/
theorem Composed.vehicles_eq_none_iff (h : Composed credentials aircraftId events d)
    {systemId : UInt8} :
    d.vehicleTracker.vehicles systemId = none ↔ systemId ∉ heardOf events := by
  constructor
  · intro hnone hmem
    obtain ⟨number, hnumber⟩ := List.mem_iff_getElem?.mp hmem
    obtain ⟨vehicle, hvehicle⟩ := (h.numbered systemId number).mp hnumber
    rw [hnone] at hvehicle
    cases hvehicle
  · intro hmem
    by_contra hsome
    obtain ⟨tracked, htracked⟩ := Option.ne_none_iff_exists'.mp hsome
    obtain ⟨number, hnumber⟩ := h.single systemId tracked htracked
    rcases tracked with ⟨vehicle, monitors⟩
    cases hnumber
    exact hmem (List.mem_of_getElem? ((h.numbered systemId number).mpr ⟨vehicle, htracked⟩))

/-- No system id was heard of first twice. -/
theorem Composed.nodup_heardOf (h : Composed credentials aircraftId events d) :
    (heardOf events).Nodup := by
  rw [List.nodup_iff_getElem?_ne_getElem?]
  intro number number' hlt hlength heq
  obtain ⟨vehicle, hvehicle⟩ :=
    (h.numbered _ number).mp (List.getElem?_eq_getElem (hlt.trans hlength))
  obtain ⟨vehicle', hvehicle'⟩ := (h.numbered _ number').mp
    (heq.symm.trans (List.getElem?_eq_getElem (hlt.trans hlength)))
  rw [hvehicle, Option.some.injEq, TrackedVehicle.mk.injEq, List.singleton_inj] at hvehicle'
  exact hlt.ne hvehicle'.2

/-- Before it takes a message, a vehicle and its submitter are those of a monitored
vehicle, the new ones those of a monitored vehicle that nothing happened to. -/
theorem Composed.receives_run (h : Composed credentials aircraftId events d)
    {systemId : UInt8} {vehicle : Vehicle} {number : ℕ}
    {submitters : List TelemetrySubmitter}
    (hreceives : Receives d systemId vehicle number submitters) :
    ∃ submitter, submitters[number]? = some submitter ∧
      run MonitoredVehicle.step (.create systemId credentials aircraftId)
        (events.filterMap (inputOf systemId number)) = some ⟨vehicle, submitter⟩ := by
  rcases hreceives with hknown | hnew
  · exact h.composed systemId vehicle number hknown
  · refine ⟨.create d.credentials d.aircraftId, by simp, ?_⟩
    have hnone : events.filterMap (inputOf systemId d.submitters.length) = [] := by
      rw [List.filterMap_eq_nil_iff]
      rintro (message | ⟨number, i, reply⟩) hmem
      · have hne : message.sysid ≠ systemId := by
          rintro rfl
          refine h.vehicles_eq_none_iff.mp hnew (List.mem_eraseDups.mpr ?_)
          exact List.mem_filterMap.mpr ⟨_, hmem, rfl⟩
        simp [inputOf, hne]
      · simp [inputOf, (h.answered number i reply hmem).ne]
    rw [hnone, h.credentials_eq, h.aircraftId_eq]
    rfl

/-- The submitter of another vehicle is another one, and stays as it is. -/
theorem Composed.receives_other (h : Composed credentials aircraftId events d)
    {systemId other : UInt8} {vehicle vehicle' : Vehicle} {number number' : ℕ}
    {submitters : List TelemetrySubmitter}
    (hreceives : Receives d systemId vehicle number submitters) (hother : other ≠ systemId)
    (hvehicle : d.vehicleTracker.vehicles other = some ⟨vehicle', [number']⟩) :
    number' ≠ number ∧ submitters[number']? = d.submitters[number']? := by
  obtain ⟨submitter, hsubmitter, -⟩ := h.composed other vehicle' number' hvehicle
  have hlt : number' < d.submitters.length :=
    (List.getElem?_eq_some_iff.mp hsubmitter).1
  rcases hreceives with hknown | hnew
  · refine ⟨?_, rfl⟩
    rintro rfl
    have hsame := (h.numbered systemId number').mpr ⟨vehicle, hknown⟩
    rw [(h.numbered other number').mpr ⟨vehicle', hvehicle⟩, Option.some.injEq] at hsame
    exact hother hsame
  · exact ⟨hlt.ne, List.getElem?_append_left hlt⟩

/-- The receiver of a message has the place among the system ids that its submitter has, and
all the others keep theirs. -/
theorem Composed.heardOf_receives (h : Composed credentials aircraftId events d)
    {message : Message} {vehicle : Vehicle} {number : ℕ} {submitters : List TelemetrySubmitter}
    (hreceives : Receives d message.sysid vehicle number submitters) :
    submitters.length = (heardOf (events ++ [.message message])).length ∧
      ∀ systemId number', (heardOf (events ++ [.message message]))[number']? = some systemId ↔
        if systemId = message.sysid then number' = number
        else (heardOf events)[number']? = some systemId := by
  rw [heardOf_message]
  rcases hreceives with hknown | hnew
  · have hplace := (h.numbered message.sysid number).mpr ⟨vehicle, hknown⟩
    rw [if_pos (List.mem_of_getElem? hplace), List.append_nil]
    refine ⟨h.length_eq, fun systemId number' => ?_⟩
    split
    · next heq =>
        subst heq
        rw [h.numbered, hknown]
        constructor
        · rintro ⟨_, hsame⟩
          cases hsame
          rfl
        · rintro rfl
          exact ⟨vehicle, rfl⟩
    · exact Iff.rfl
  · have hmem := h.vehicles_eq_none_iff.mp hnew
    rw [if_neg hmem]
    refine ⟨by simp [h.length_eq], fun systemId number' => ?_⟩
    rw [h.length_eq]
    by_cases hsid : systemId = message.sysid
    · subst hsid
      rw [if_pos rfl]
      refine ⟨fun hget => ?_, fun heq => by simp [heq]⟩
      rcases Nat.lt_or_ge number' (heardOf events).length with hlt | hge
      · rw [List.getElem?_append_left hlt] at hget
        exact absurd (List.mem_of_getElem? hget) hmem
      · rw [List.getElem?_append_right hge, List.getElem?_singleton] at hget
        have hzero := (Option.ite_none_right_eq_some.mp hget).1
        omega
    · rw [if_neg hsid, List.getElem?_append]
      split
      · exact Iff.rfl
      · next hge =>
          rw [List.getElem?_singleton, List.getElem?_eq_none (Nat.le_of_not_lt hge)]
          simp [Ne.symm hsid]

theorem Receives.length_le {systemId : UInt8} {vehicle : Vehicle} {number : ℕ}
    {submitters : List TelemetrySubmitter}
    (hreceives : Receives d systemId vehicle number submitters) :
    d.submitters.length ≤ submitters.length := by
  rcases hreceives with - | -
  · exact le_rfl
  · simp

theorem inputOf_message_self (message : Message) (number : ℕ) :
    inputOf message.sysid number (.message message) = some (.message message) := by
  simp [inputOf]

theorem WellTracked.received (h : d.WellTracked) {systemId : UInt8} {vehicle : Vehicle}
    (hid : vehicle.systemId = systemId) (number : ℕ) (submitters : List TelemetrySubmitter)
    (notifications : List Notification) :
    (d.received systemId vehicle number submitters notifications).WellTracked where
  monitors := h.monitors
  keyed := h.keyed.update hid
  single := by
    intro systemId' tracked htracked
    by_cases heq : systemId' = systemId
    · subst heq
      rw [vehicles_received_self, Option.some.injEq] at htracked
      exact ⟨number, htracked ▸ rfl⟩
    · rw [vehicles_received_of_ne _ _ _ _ _ _ heq] at htracked
      exact h.single systemId' tracked htracked

/-- The vehicle that took a message, and its submitter, are those of the monitored vehicle
that took it; the other ones are as they were. -/
theorem Composed.composed_received (h : Composed credentials aircraftId events d)
    {message : Message} {vehicle vehicle' : Vehicle} {number : ℕ}
    {submitters : List TelemetrySubmitter} {notifications : List Notification}
    (hreceives : Receives d message.sysid vehicle number submitters)
    (hupdate : vehicle.update message = some (vehicle', notifications))
    {systemId : UInt8} {vehicle'' : Vehicle} {number' : ℕ}
    (hvehicle : (d.received message.sysid vehicle' number submitters
      notifications).vehicleTracker.vehicles systemId = some ⟨vehicle'', [number']⟩) :
    ∃ submitter, (d.received message.sysid vehicle' number submitters
        notifications).submitters[number']? = some submitter ∧
      run MonitoredVehicle.step (.create systemId credentials aircraftId)
        ((events ++ [Event.message message]).filterMap (inputOf systemId number')) =
          some ⟨vehicle'', submitter⟩ := by
  by_cases heq : systemId = message.sysid
  · subst heq
    rw [vehicles_received_self, Option.some.injEq,
      TrackedVehicle.mk.injEq, List.singleton_inj] at hvehicle
    obtain ⟨rfl, rfl⟩ := hvehicle
    obtain ⟨submitter, hsubmitter, hrun⟩ := h.receives_run hreceives
    refine ⟨notifications.foldl handle submitter, ?_, ?_⟩
    · simp [received, hsubmitter]
    · rw [filterMap_concat_some (inputOf_message_self _ _)]
      exact run_concat hrun (monitoredVehicle_step hupdate submitter)
  · rw [vehicles_received_of_ne _ _ _ _ _ _ heq] at hvehicle
    obtain ⟨hnumber, hsame⟩ := h.receives_other hreceives heq hvehicle
    obtain ⟨submitter, hsubmitter, hrun⟩ := h.composed systemId vehicle'' number' hvehicle
    refine ⟨submitter, ?_, ?_⟩
    · rw [received, List.getElem?_modify_ne _ _ hnumber.symm, hsame, hsubmitter]
    · have hnone : inputOf systemId number' (.message message) = none :=
        if_neg (Ne.symm heq)
      rw [filterMap_concat_none hnone, hrun]

theorem Composed.message (h : Composed credentials aircraftId events d)
    {message : Message} {vehicle vehicle' : Vehicle} {number : ℕ}
    {submitters : List TelemetrySubmitter} {notifications : List Notification}
    (hreceives : Receives d message.sysid vehicle number submitters)
    (hupdate : vehicle.update message = some (vehicle', notifications))
    (hid : vehicle'.systemId = message.sysid) :
    Composed credentials aircraftId (events ++ [.message message])
      (d.received message.sysid vehicle' number submitters notifications) where
  toWellTracked := h.toWellTracked.received hid number submitters notifications
  credentials_eq := h.credentials_eq
  aircraftId_eq := h.aircraftId_eq
  length_eq := by
    rw [length_submitters_received]
    exact (h.heardOf_receives hreceives).1
  numbered := by
    intro systemId number'
    rw [(h.heardOf_receives hreceives).2]
    by_cases heq : systemId = message.sysid
    · subst heq
      rw [if_pos rfl, vehicles_received_self]
      constructor
      · rintro rfl
        exact ⟨vehicle', rfl⟩
      · rintro ⟨_, hsame⟩
        cases hsame
        rfl
    · rw [if_neg heq, vehicles_received_of_ne _ _ _ _ _ _ heq]
      exact h.numbered systemId number'
  answered := by
    intro number' i reply hmem
    have hold : .answer number' i reply ∈ events := by simpa using hmem
    rw [length_submitters_received]
    exact (h.answered number' i reply hold).trans_le hreceives.length_le
  composed := fun _ _ _ hvehicle => h.composed_received hreceives hupdate hvehicle

/-- An answer is an event of the monitored vehicle that its submitter belongs to, and
of no other one. -/
theorem Composed.answer (h : Composed credentials aircraftId events d) {number i : ℕ}
    {reply : Reply} {submitter submitter' : TelemetrySubmitter}
    (hsubmitter : d.submitters[number]? = some submitter)
    (hstep : submitter.step (.answer i reply) = some submitter') :
    Composed credentials aircraftId (events ++ [.answer number i reply])
      { d with submitters := d.submitters.set number submitter' } where
  toWellTracked := ⟨h.monitors, h.keyed, h.single⟩
  credentials_eq := h.credentials_eq
  aircraftId_eq := h.aircraftId_eq
  length_eq := by rw [List.length_set, heardOf_answer, h.length_eq]
  numbered := by
    intro systemId number'
    rw [heardOf_answer]
    exact h.numbered systemId number'
  answered := by
    intro number' i' reply' hmem
    rw [List.length_set]
    rcases List.mem_append.mp hmem with hold | hnew
    · exact h.answered number' i' reply' hold
    · cases List.mem_singleton.mp hnew
      exact (List.getElem?_eq_some_iff.mp hsubmitter).1
  composed := by
    intro systemId vehicle number' hvehicle
    obtain ⟨old, hold, hrun⟩ := h.composed systemId vehicle number' hvehicle
    by_cases heq : number = number'
    · subst heq
      rw [hsubmitter, Option.some.injEq] at hold
      subst hold
      have hinput : inputOf systemId number (.answer number i reply) =
          some (.answer i reply) := if_pos rfl
      refine ⟨submitter', ?_, ?_⟩
      · exact List.getElem?_set_self (List.getElem?_eq_some_iff.mp hsubmitter).1
      · rw [filterMap_concat_some hinput]
        exact run_concat hrun (by simp only [MonitoredVehicle.step, hstep, Option.map_some])
    · have hinput : inputOf systemId number' (.answer number i reply) = none := if_neg heq
      refine ⟨old, (List.getElem?_set_ne heq).trans hold, ?_⟩
      rw [filterMap_concat_none hinput, hrun]

/-- No message fails. -/
theorem WellTracked.exists_received (h : d.WellTracked) (message : Message) :
    ∃ vehicle vehicle' number submitters notifications,
      Receives d message.sysid vehicle number submitters ∧
        vehicle.update message = some (vehicle', notifications) ∧
        vehicle'.systemId = message.sysid := by
  obtain ⟨vehicle, number, submitters, hreceives, hid⟩ := h.receives message.sysid
  obtain ⟨vehicle', notifications, hupdate, hid'⟩ := Vehicle.exists_update_eq_some hid
  exact ⟨_, _, _, _, _, hreceives, hupdate, hid'.trans hid⟩

theorem Composed.step {event : Event} (h : Composed credentials aircraftId events d)
    (hstep : d.step event = some d') :
    Composed credentials aircraftId (events ++ [event]) d' := by
  rcases event with message | ⟨number, i, reply⟩
  · obtain ⟨vehicle, vehicle', number, submitters, notifications, hreceives, hupdate, hid⟩ :=
      h.exists_received message
    have heq := handleMavlinkMessage_eq h.monitors hreceives hupdate
    rw [Daemon.step, heq, Option.some.injEq] at hstep
    subst hstep
    exact h.message hreceives hupdate hid
  · simp only [Daemon.step] at hstep
    split at hstep
    · cases hstep
    · next submitter hsubmitter =>
        obtain ⟨submitter', hanswer, rfl⟩ := Option.map_eq_some_iff.mp hstep
        exact h.answer hsubmitter hanswer

theorem composed_run (hrun : run step (create credentials aircraftId) events = some d) :
    Composed credentials aircraftId events d :=
  run_history (Composed credentials aircraftId) (composed_create credentials aircraftId)
    (fun _ _ _ _ h hstep => h.step hstep) hrun

/-- Messages can be handled one after the other. -/
theorem Composed.exists_run_messages (h : Composed credentials aircraftId events d)
    (messages : List Message) : ∃ d', run Daemon.step d (messages.map .message) = some d' := by
  induction messages generalizing d events with
  | nil => exact ⟨d, rfl⟩
  | cons message messages ih =>
      obtain ⟨vehicle, vehicle', number, submitters, notifications, hreceives, hupdate, -⟩ :=
        h.exists_received message
      have hstep : d.step (.message message) = some _ :=
        handleMavlinkMessage_eq h.monitors hreceives hupdate
      obtain ⟨d', hrun⟩ := ih (h.step hstep)
      exact ⟨d', by rw [List.map_cons, run_cons_of_eq hstep, hrun]⟩

/-- In every run of a daemon a message never fails.  There is one submitter for each system
id that was heard of, in the order in which they first were, and a vehicle for no other
one.  A vehicle and its submitter are those of a monitored vehicle of its own, which took
the messages of this system id and the answers to this submitter in the order in which they
came. -/
theorem run_isComposition
    (hrun : run step (create credentials aircraftId) events = some d) :
    (∀ message, ∃ d', d.step (.message message) = some d') ∧
      d.submitters.length = (heardOf events).length ∧ (heardOf events).Nodup ∧
      (∀ systemId, systemId ∉ heardOf events → d.vehicleTracker.vehicles systemId = none) ∧
      ∀ number systemId, (heardOf events)[number]? = some systemId →
        ∃ vehicle submitter,
          d.vehicleTracker.vehicles systemId = some ⟨vehicle, [number]⟩ ∧
            d.submitters[number]? = some submitter ∧
            run MonitoredVehicle.step (.create systemId credentials aircraftId)
              (events.filterMap (inputOf systemId number)) = some ⟨vehicle, submitter⟩ := by
  have h := composed_run hrun
  refine ⟨fun message => ?_, h.length_eq, h.nodup_heardOf,
    fun systemId => h.vehicles_eq_none_iff.mpr, fun number systemId hplace => ?_⟩
  · obtain ⟨vehicle, vehicle', number, submitters, notifications, hreceives, hupdate, -⟩ :=
      h.exists_received message
    exact ⟨_, handleMavlinkMessage_eq h.monitors hreceives hupdate⟩
  · obtain ⟨vehicle, hvehicle⟩ := (h.numbered systemId number).mp hplace
    obtain ⟨submitter, hsubmitter, hown⟩ := h.composed systemId vehicle number hvehicle
    exact ⟨vehicle, submitter, hvehicle, hsubmitter, hown⟩

/-- Messages of two vehicles, with an answer for the first of them between. -/
def interleavedRun : List Event :=
  [.message ⟨7, .heartbeat 4⟩, .message ⟨2, .heartbeat 3⟩,
    .answer 0 0 (.authorization "token"),
    .message ⟨7, .globalPositionInt ⟨350000000, -780000000, 0, 0⟩⟩,
    .message ⟨2, .heartbeat 4⟩]

theorem run_isComposition_interleavedRun :
    ∃ d, run step (create {} "aircraft") interleavedRun = some d ∧
      d.submitters.length = 2 ∧ heardOf interleavedRun = [7, 2] ∧
      ∀ number systemId, (heardOf interleavedRun)[number]? = some systemId →
        ∃ vehicle submitter,
          d.vehicleTracker.vehicles systemId = some ⟨vehicle, [number]⟩ ∧
            d.submitters[number]? = some submitter ∧
            run MonitoredVehicle.step (.create systemId {} "aircraft")
              (interleavedRun.filterMap (inputOf systemId number)) =
                some ⟨vehicle, submitter⟩ := by
  obtain ⟨d, hrun⟩ : ∃ d, run step (create {} "aircraft") interleavedRun = some d :=
    Option.isSome_iff_exists.mp (by decide)
  obtain ⟨-, hlength, -, -, hcomposed⟩ := run_isComposition hrun
  have hheard : heardOf interleavedRun = [7, 2] := by decide
  exact ⟨d, hrun, by rw [hlength, hheard]; rfl, hheard, hcomposed⟩

end Daemon
end Airmap.Monitor
