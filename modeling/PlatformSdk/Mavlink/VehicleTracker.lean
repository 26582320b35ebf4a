import PlatformSdk.Machine.Transducer
import PlatformSdk.Mavlink.Vehicle

/-!
# Tracking vehicles

`VehicleTracker` makes a vehicle of each system id that it hears of, and gives
each message to the vehicle of its system id.  The calls on the monitors are the
outputs of `update`.  A monitor that is registered with one vehicle hears what this
vehicle alone notifies of.
-/

namespace Airmap.Mavlink

open Machine

variable {μ ν : Type*}

/-- A call on a monitor of the tracker, with the system id of the vehicle that it is given,
or on a monitor of a vehicle. -/
inductive MonitorCall (μ ν : Type*) where
  | onVehicleAdded (monitor : μ) (systemId : UInt8)
  | notify (monitor : ν) (notification : Notification)

/-- `Vehicle`, with the set of its monitors. -/
structure TrackedVehicle (ν : Type*) where
  vehicle : Vehicle
  monitors : List ν := []

namespace TrackedVehicle

variable [DecidableEq ν]

/-- `Vehicle::register_monitor`. -/
def registerMonitor (tracked : TrackedVehicle ν) (monitor : ν) : TrackedVehicle ν :=
  if monitor ∈ tracked.monitors then tracked
  else { tracked with monitors := tracked.monitors ++ [monitor] }

omit [DecidableEq ν] in
/-- `Vehicle::update`, with each notification to each monitor. -/
def update (tracked : TrackedVehicle ν) (message : Message) :
    Option (TrackedVehicle ν × List (MonitorCall μ ν)) :=
  match tracked.vehicle.update message with
  | none => none
  | some (vehicle, notifications) =>
      some ({ tracked with vehicle := vehicle }, notifications.flatMap fun notification =>
        tracked.monitors.map fun monitor => .notify monitor notification)

end TrackedVehicle

/-- `VehicleTracker`; `vehicles` is the map from system ids. -/
structure VehicleTracker (μ ν : Type*) where
  monitors : List μ := []
  vehicles : UInt8 → Option (TrackedVehicle ν) := fun _ => none

namespace VehicleTracker

variable [DecidableEq ν]

/-- The vehicle of a system id, and the calls for the case that it is new;
`registers` are the monitors that a monitor of the tracker registers with the
vehicle in `on_vehicle_added`. -/
def findOrEmplace (registers : μ → UInt8 → List ν) (monitors : List μ)
    (systemId : UInt8) :
    Option (TrackedVehicle ν) → TrackedVehicle ν × List (MonitorCall μ ν)
  | some tracked => (tracked, [])
  | none =>
      (monitors.foldl (fun tracked monitor =>
          (registers monitor systemId).foldl TrackedVehicle.registerMonitor tracked)
        { vehicle := { systemId := systemId } },
        monitors.map fun monitor => .onVehicleAdded monitor systemId)

/-- `VehicleTracker::update`; `none` where the assertion of the vehicle fails. -/
def update (registers : μ → UInt8 → List ν) (t : VehicleTracker μ ν)
    (message : Message) : Option (VehicleTracker μ ν × List (MonitorCall μ ν)) :=
  let (tracked, added) :=
    findOrEmplace registers t.monitors message.sysid (t.vehicles message.sysid)
  match tracked.update message with
  | none => none
  | some (tracked, notified) =>
      some ({ t with vehicles := Function.update t.vehicles message.sysid (some tracked) },
        added ++ notified)

/-! ## What monitors hear -/

/-- The monitors that are registered with the vehicle of a system id. -/
def registered (registers : μ → UInt8 → List ν) (monitors : List μ) (systemId : UInt8) :
    List ν :=
  monitors.flatMap fun monitor => registers monitor systemId

/-- The monitor is registered with the vehicle of a system id, and with no other one. -/
def IsMonitorOf (registers : μ → UInt8 → List ν) (monitors : List μ) (systemId : UInt8)
    (monitor : ν) : Prop :=
  ∀ systemId', monitor ∈ registered registers monitors systemId' ↔ systemId' = systemId

/-- The notification that a monitor hears with a call. -/
def heardBy (monitor : ν) : MonitorCall μ ν → Option Notification
  | .onVehicleAdded _ _ => none
  | .notify monitor' notification => if monitor' = monitor then some notification else none

/-- The call adds the vehicle of a system id. -/
def adds (systemId : UInt8) : MonitorCall μ ν → Bool
  | .onVehicleAdded _ systemId' => systemId' = systemId
  | .notify _ _ => false

/-- The call adds the vehicle of a system id, or is one on the monitor. -/
def concerns (systemId : UInt8) (monitor : ν) (call : MonitorCall μ ν) : Bool :=
  adds systemId call || (heardBy monitor call).isSome

/-- The calls with which the vehicle of a system id is added. -/
def additions (monitors : List μ) (systemId : UInt8) : List (MonitorCall μ ν) :=
  monitors.map fun monitor => .onVehicleAdded monitor systemId

omit [DecidableEq ν] in
@[simp] theorem filter_adds_additions (monitors : List μ) (systemId : UInt8) :
    (additions (ν := ν) monitors systemId).filter (adds systemId) =
      additions monitors systemId := by
  rw [List.filter_eq_self]
  intro call hcall
  obtain ⟨monitor, -, rfl⟩ := List.mem_map.mp hcall
  simp [adds]

@[simp] theorem filter_concerns_additions (monitors : List μ) (systemId : UInt8)
    (monitor : ν) :
    (additions monitors systemId).filter (concerns systemId monitor) =
      additions monitors systemId := by
  rw [List.filter_eq_self]
  intro call hcall
  obtain ⟨monitor', -, rfl⟩ := List.mem_map.mp hcall
  simp [concerns, adds]

/-- What a monitor hears is found among the calls that concern it. -/
theorem filterMap_heardBy_concerns (systemId : UInt8) (monitor : ν)
    (calls : List (MonitorCall μ ν)) :
    (calls.filter (concerns systemId monitor)).filterMap (heardBy monitor) =
      calls.filterMap (heardBy monitor) := by
  rw [List.filterMap_filter]
  refine List.filterMap_congr fun call _ => ?_
  by_cases h : concerns systemId monitor call
  · rw [if_pos h]
  · rw [if_neg h]
    simp only [concerns, Bool.or_eq_true, not_or, Bool.not_eq_true,
      Option.isSome_eq_false_iff, Option.isNone_iff_eq_none] at h
    exact h.2.symm

/-! ## One system id -/

/-- What a message of a system id does to its entry in the map. -/
def entryStep (registers : μ → UInt8 → List ν) (monitors : List μ) (systemId : UInt8)
    (entry : Option (TrackedVehicle ν)) (message : Message) :
    Option (TrackedVehicle ν) × List (MonitorCall μ ν) :=
  let (tracked, added) := findOrEmplace registers monitors systemId entry
  match tracked.update message with
  | none => (some tracked, added)
  | some (tracked, notified) => (some tracked, added ++ notified)

/-- The vehicle of an entry has the system id it is found under. -/
def IsKeyed (vehicles : UInt8 → Option (TrackedVehicle ν)) : Prop :=
  ∀ systemId tracked, vehicles systemId = some tracked →
    tracked.vehicle.systemId = systemId

omit [DecidableEq ν] in
theorem IsKeyed.update {vehicles : UInt8 → Option (TrackedVehicle ν)}
    (h : IsKeyed vehicles) {systemId : UInt8} {tracked : TrackedVehicle ν}
    (hid : tracked.vehicle.systemId = systemId) :
    IsKeyed (Function.update vehicles systemId (some tracked)) := by
  intro systemId' other hother
  by_cases heq : systemId' = systemId
  · subst heq
    rw [Function.update_self, Option.some.injEq] at hother
    exact hother ▸ hid
  · rw [Function.update_of_ne heq] at hother
    exact h systemId' other hother

/-- The vehicle with which monitors were registered one after the other. -/
structure Registers (tracked tracked' : TrackedVehicle ν) (monitors : List ν) : Prop where
  vehicle : tracked'.vehicle = tracked.vehicle
  mem_iff : ∀ monitor,
    monitor ∈ tracked'.monitors ↔ monitor ∈ tracked.monitors ∨ monitor ∈ monitors
  nodup : tracked.monitors.Nodup → tracked'.monitors.Nodup

theorem registers_foldl (tracked : TrackedVehicle ν) (monitors : List ν) :
    Registers tracked (monitors.foldl TrackedVehicle.registerMonitor tracked) monitors := by
  induction monitors generalizing tracked with
  | nil => exact ⟨rfl, by simp, id⟩
  | cons monitor monitors ih =>
      have hrest := ih (tracked.registerMonitor monitor)
      rw [List.foldl_cons]
      by_cases hmem : monitor ∈ tracked.monitors
      · have hsame : tracked.registerMonitor monitor = tracked := if_pos hmem
        rw [hsame] at hrest ⊢
        refine ⟨hrest.vehicle, fun monitor' => ?_, hrest.nodup⟩
        rw [hrest.mem_iff, List.mem_cons]
        constructor
        · tauto
        · rintro (hold | rfl | hnew)
          · exact Or.inl hold
          · exact Or.inl hmem
          · exact Or.inr hnew
      · have hadded : tracked.registerMonitor monitor =
            { tracked with monitors := tracked.monitors ++ [monitor] } := if_neg hmem
        rw [hadded] at hrest ⊢
        refine ⟨hrest.vehicle, fun monitor' => ?_, fun hnodup => hrest.nodup ?_⟩
        · rw [hrest.mem_iff, List.mem_append, List.mem_singleton, List.mem_cons]
          tauto
        · exact List.nodup_append.mpr ⟨hnodup, List.nodup_singleton monitor, by
            rintro monitor' hold _ hnew rfl
            exact hmem (List.mem_singleton.mp hnew ▸ hold)⟩

/-- A vehicle that is added has all the monitors that are registered with it, each once. -/
theorem registers_findOrEmplace (registers : μ → UInt8 → List ν) (monitors : List μ)
    (systemId : UInt8) :
    Registers { vehicle := { systemId := systemId } }
      (findOrEmplace registers monitors systemId none).1
      (registered registers monitors systemId) := by
  rw [findOrEmplace, registered, ← List.foldl_flatMap]
  exact registers_foldl _ _

theorem systemId_findOrEmplace {registers : μ → UInt8 → List ν} {monitors : List μ}
    {systemId : UInt8} {entry : Option (TrackedVehicle ν)}
    (h : ∀ tracked, entry = some tracked → tracked.vehicle.systemId = systemId) :
    (findOrEmplace registers monitors systemId entry).1.vehicle.systemId =
      systemId := by
  cases entry with
  | some tracked => exact h tracked rfl
  | none => rw [(registers_findOrEmplace registers monitors systemId).vehicle]

omit [DecidableEq ν] in
/-- A vehicle takes each message of its system. -/
theorem exists_trackedUpdate {tracked : TrackedVehicle ν} {message : Message}
    (h : tracked.vehicle.systemId = message.sysid) :
    ∃ vehicle notifications, tracked.vehicle.update message = some (vehicle, notifications) ∧
      vehicle.systemId = message.sysid ∧
      tracked.update (μ := μ) message = some ({ tracked with vehicle := vehicle },
        notifications.flatMap fun notification =>
          tracked.monitors.map fun monitor => .notify monitor notification) := by
  obtain ⟨vehicle, notifications, heq, hid⟩ := Vehicle.exists_update_eq_some h
  exact ⟨vehicle, notifications, heq, hid.trans h, by simp [TrackedVehicle.update, heq]⟩

/-- A vehicle that is there makes each of its notifications to each of its monitors. -/
theorem feed_entryStep_some (registers : μ → UInt8 → List ν) (monitors : List μ)
    {systemId : UInt8} {tracked : TrackedVehicle ν}
    (h : tracked.vehicle.systemId = systemId) (messages : List Message)
    (hsysid : ∀ message ∈ messages, message.sysid = systemId) :
    ∃ vehicle notifications,
      tryFeed Vehicle.update tracked.vehicle messages = some (vehicle, notifications) ∧
        feed (entryStep registers monitors systemId) (some tracked) messages =
          (some { tracked with vehicle := vehicle },
            notifications.flatMap fun notification =>
              tracked.monitors.map fun monitor => .notify monitor notification) := by
  induction messages generalizing tracked with
  | nil => exact ⟨tracked.vehicle, [], rfl, rfl⟩
  | cons message messages ih =>
      have hmessage : tracked.vehicle.systemId = message.sysid :=
        h.trans (hsysid message List.mem_cons_self).symm
      obtain ⟨next, first, hupdate, hid, htracked⟩ := exists_trackedUpdate (μ := μ) hmessage
      have hnext : ({ tracked with vehicle := next } : TrackedVehicle ν).vehicle.systemId =
          systemId := hid.trans (hsysid message List.mem_cons_self)
      obtain ⟨vehicle, rest, hrest, hfeed⟩ :=
        ih hnext fun message' hmem => hsysid message' (List.mem_cons_of_mem _ hmem)
      refine ⟨vehicle, first ++ rest, by simp [tryFeed, hupdate, hrest], ?_⟩
      have hstep : entryStep registers monitors systemId (some tracked) message =
          (some { tracked with vehicle := next }, first.flatMap fun notification =>
            tracked.monitors.map fun monitor => .notify monitor notification) := by
        simp only [entryStep, findOrEmplace, htracked, List.nil_append]
      rw [feed_cons, hstep, hfeed, List.flatMap_append]

theorem entryStep_none (registers : μ → UInt8 → List ν) (monitors : List μ)
    (systemId : UInt8) (message : Message) :
    entryStep registers monitors systemId none message =
      ((entryStep registers monitors systemId
          (some (findOrEmplace registers monitors systemId none).1) message).1,
        additions monitors systemId ++ (entryStep registers monitors systemId
          (some (findOrEmplace registers monitors systemId none).1) message).2) := by
  simp only [entryStep, findOrEmplace, List.nil_append]
  split
  · exact congrArg (Prod.mk _) (List.append_nil _).symm
  · rfl

/-- A system id that is heard of is added first, by one call on each monitor of
the tracker; everything after that is a notification. -/
theorem feed_entryStep_none (registers : μ → UInt8 → List ν) (monitors : List μ)
    {systemId : UInt8} {messages : List Message} (hne : messages ≠ [])
    (hsysid : ∀ message ∈ messages, message.sysid = systemId) :
    ∃ vehicle notifications,
      tryFeed Vehicle.update { systemId := systemId } messages =
          some (vehicle, notifications) ∧
        (feed (entryStep registers monitors systemId) none messages).2 =
          additions monitors systemId ++ notifications.flatMap fun notification =>
            (findOrEmplace registers monitors systemId none).1.monitors.map fun monitor =>
              .notify monitor notification := by
  have hvehicle := (registers_findOrEmplace registers monitors systemId).vehicle
  have hid : (findOrEmplace registers monitors systemId none).1.vehicle.systemId =
      systemId := by rw [hvehicle]
  obtain ⟨vehicle, notifications, hrun, hfeed⟩ :=
    feed_entryStep_some registers monitors hid messages hsysid
  rw [hvehicle] at hrun
  refine ⟨vehicle, notifications, hrun, ?_⟩
  cases messages with
  | nil => exact absurd rfl hne
  | cons message messages =>
      rw [feed_cons] at hfeed
      rw [feed_cons, entryStep_none, List.append_assoc]
      exact congrArg (additions monitors systemId ++ ·) (congrArg Prod.snd hfeed)

/-- Of calls that tell each of some monitors of each of some notifications, a monitor hears
each notification once, if it is one of them. -/
theorem filter_concerns_notifications {monitors : List ν} (hnodup : monitors.Nodup)
    {monitor : ν} (hmem : monitor ∈ monitors) (systemId : UInt8)
    (notifications : List Notification) :
    (notifications.flatMap fun notification => monitors.map fun monitor =>
        MonitorCall.notify (μ := μ) monitor notification).filter (concerns systemId monitor) =
      notifications.map (.notify monitor) := by
  rw [List.filter_flatMap, List.map_eq_flatMap]
  refine List.flatMap_congr fun notification _ => ?_
  have hconcerns : (concerns (μ := μ) systemId monitor ∘ fun monitor =>
      .notify monitor notification) = fun monitor' => monitor' == monitor := by
    funext monitor'
    by_cases h : monitor' = monitor
    · simp [concerns, adds, heardBy, h]
    · simp [concerns, adds, heardBy, h]
  rw [List.filter_map, hconcerns, List.filter_beq, List.count_eq_one_of_mem hnodup hmem]
  rfl

/-! ## Whole runs -/

/-- A message of the tracker is a step of the entry of its system id; no other
entry takes part. -/
theorem exists_update_eq_keyed (registers : μ → UInt8 → List ν)
    {t : VehicleTracker μ ν} (hkeyed : IsKeyed t.vehicles) (message : Message) :
    ∃ next : VehicleTracker μ ν,
      (next.monitors = t.monitors ∧ IsKeyed next.vehicles) ∧
        next.vehicles = (keyed Message.sysid (entryStep registers t.monitors)
          t.vehicles message).1 ∧
        t.update registers message = some (next, (keyed Message.sysid
          (entryStep registers t.monitors) t.vehicles message).2.map Prod.snd) := by
  have hsystemId : (findOrEmplace registers t.monitors message.sysid
      (t.vehicles message.sysid)).1.vehicle.systemId = message.sysid :=
    systemId_findOrEmplace (hkeyed message.sysid)
  obtain ⟨vehicle, notifications, -, hid, htracked⟩ := exists_trackedUpdate (μ := μ) hsystemId
  let tracked : TrackedVehicle ν :=
    { (findOrEmplace registers t.monitors message.sysid (t.vehicles message.sysid)).1 with
      vehicle := vehicle }
  refine ⟨{ t with vehicles := Function.update t.vehicles message.sysid (some tracked) },
    ⟨rfl, hkeyed.update hid⟩, ?_, ?_⟩
  · simp [keyed, entryStep, htracked, tracked]
  · simp [keyed, entryStep, update, htracked, tracked, Function.comp_def]

/-- The assertion of a vehicle never fails, and a run of the tracker is a run of
its entries side by side. -/
theorem exists_tryFeed_eq_keyed (registers : μ → UInt8 → List ν)
    {t : VehicleTracker μ ν} (hkeyed : IsKeyed t.vehicles) (messages : List Message) :
    ∃ last : VehicleTracker μ ν,
      last.vehicles = (feed (keyed Message.sysid (entryStep registers t.monitors))
          t.vehicles messages).1 ∧
        tryFeed (update registers) t messages = some (last,
          (feed (keyed Message.sysid (entryStep registers t.monitors))
            t.vehicles messages).2.map Prod.snd) := by
  let Inv (t' : VehicleTracker μ ν) : Prop :=
    t'.monitors = t.monitors ∧ IsKeyed t'.vehicles
  let total (vehicles : UInt8 → Option (TrackedVehicle ν)) (message : Message) :=
    ((keyed Message.sysid (entryStep registers t.monitors) vehicles message).1,
      (keyed Message.sysid (entryStep registers t.monitors) vehicles message).2.map Prod.snd)
  have hstep : ∀ t' message, Inv t' → ∃ next, Inv next ∧
      next.vehicles = (total t'.vehicles message).1 ∧
      t'.update registers message = some (next, (total t'.vehicles message).2) := by
    rintro t' message ⟨hmonitors, hkeyed'⟩
    have hnext := exists_update_eq_keyed registers hkeyed' message
    rw [hmonitors] at hnext
    exact hnext
  obtain ⟨last, -, hvehicles, hrun⟩ :=
    tryFeed_eq_some Inv VehicleTracker.vehicles hstep ⟨rfl, hkeyed⟩ messages
  have htotal : feed total t.vehicles messages = _ := feed_map Prod.snd t.vehicles messages
  refine ⟨last, ?_, ?_⟩
  · rw [hvehicles]
    exact congrArg Prod.fst htotal
  · rw [hrun]
    exact congrArg (fun out => some (last, out)) (congrArg Prod.snd htotal)

/-- The calls in which the vehicle of a system id is added by one call on each monitor of the
tracker, if it has messages of its own, after which a monitor of this vehicle hears what
the vehicle alone notifies of. -/
structure Isolated (registers : μ → UInt8 → List ν) (monitors : List μ) (systemId : UInt8)
    (own : List Message) (calls : List (MonitorCall μ ν)) : Prop where
  added : calls.filter (adds systemId) =
    if own = [] then [] else additions monitors systemId
  heard : ∃ vehicle notifications,
    tryFeed Vehicle.update { systemId := systemId } own = some (vehicle, notifications) ∧
      ∀ monitor, IsMonitorOf registers monitors systemId monitor →
        calls.filter (concerns systemId monitor) =
          calls.filter (adds systemId) ++ notifications.map (.notify monitor)

section Isolation

variable (registers : μ → UInt8 → List ν) (monitors : List μ) {systemId : UInt8}

/-- Only monitors that are registered with a vehicle hear its notifications, and only the
vehicle of its system id is added. -/
theorem concerns_feed_entryStep {messages : List Message}
    (hsysid : ∀ message ∈ messages, message.sysid = systemId) :
    ∀ call ∈ (feed (entryStep registers monitors systemId) none messages).2,
      call ∈ additions monitors systemId ∨ ∃ monitor ∈ registered registers monitors systemId,
        ∃ notification, call = .notify monitor notification := by
  intro call hcall
  by_cases hne : messages = []
  · rw [hne] at hcall
    cases hcall
  · obtain ⟨vehicle, notifications, -, hout⟩ :=
      feed_entryStep_none registers monitors hne hsysid
    rw [hout, List.mem_append] at hcall
    rcases hcall with hadded | hnotified
    · exact Or.inl hadded
    · obtain ⟨notification, -, hmem⟩ := List.mem_flatMap.mp hnotified
      obtain ⟨monitor, hmonitor, rfl⟩ := List.mem_map.mp hmem
      have hmem := (registers_findOrEmplace registers monitors systemId).mem_iff monitor
      exact Or.inr ⟨monitor, by simpa using hmem.mp hmonitor, notification, rfl⟩

/-- What a run of the entry of a system id puts out. -/
theorem isolated_feed_entryStep {messages : List Message}
    (hsysid : ∀ message ∈ messages, message.sysid = systemId) :
    Isolated registers monitors systemId messages
      (feed (entryStep registers monitors systemId) none messages).2 := by
  by_cases hne : messages = []
  · subst hne
    exact ⟨rfl, { systemId := systemId }, [], rfl, fun _ _ => rfl⟩
  · obtain ⟨vehicle, notifications, hrun, hout⟩ :=
      feed_entryStep_none registers monitors hne hsysid
    have hregisters := registers_findOrEmplace registers monitors systemId
    have hadded : (feed (entryStep registers monitors systemId) none messages).2.filter
        (adds systemId) = additions monitors systemId := by
      rw [hout, List.filter_append, filter_adds_additions, List.append_right_eq_self,
        List.filter_eq_nil_iff]
      intro call hcall
      obtain ⟨notification, -, hmem⟩ := List.mem_flatMap.mp hcall
      obtain ⟨monitor, -, rfl⟩ := List.mem_map.mp hmem
      exact Bool.false_ne_true
    refine ⟨by rw [hadded, if_neg hne], vehicle, notifications, hrun, fun monitor hown => ?_⟩
    have hmem : monitor ∈ (findOrEmplace registers monitors systemId none).1.monitors :=
      (hregisters.mem_iff monitor).mpr (Or.inr ((hown systemId).mpr rfl))
    rw [hadded, hout, List.filter_append, filter_concerns_additions,
      filter_concerns_notifications (hregisters.nodup List.nodup_nil) hmem]

theorem sysid_of_mem_filter (systemId : UInt8) (messages : List Message) :
    ∀ message ∈ messages.filter fun message => message.sysid == systemId,
      message.sysid = systemId :=
  fun _ hmem => beq_iff_eq.mp (List.mem_filter.mp hmem).2

/-- The call adds the vehicle of the system id that it is marked with, or is one on a monitor
of this vehicle. -/
def IsOwn (output : UInt8 × MonitorCall μ ν) : Prop :=
  output.2 ∈ additions monitors output.1 ∨
    ∃ monitor ∈ registered registers monitors output.1,
      ∃ notification, output.2 = .notify monitor notification

/-- The entries side by side make calls of their own only. -/
theorem isOwn_of_mem_feed (messages : List Message) :
    ∀ output ∈ (feed (keyed Message.sysid (entryStep registers monitors)) (fun _ => none)
      messages).2, IsOwn registers monitors output := by
  intro output hmem
  have hout := mem_outputsOf hmem
  rw [(Prod.mk.inj (@feed_keyed _ _ _ _ _ Message.sysid (entryStep registers monitors)
    output.1 (fun _ => none) messages)).2] at hout
  exact concerns_feed_entryStep registers monitors
    (sysid_of_mem_filter output.1 messages) output.2 hout

variable {registers monitors} {marked : List (UInt8 × MonitorCall μ ν)}

omit [DecidableEq ν] in
/-- A vehicle is added by calls of its own system id. -/
theorem filter_adds_outputsOf (systemId : UInt8)
    (hown : ∀ output ∈ marked, IsOwn registers monitors output) :
    (marked.map Prod.snd).filter (adds systemId) =
      (outputsOf systemId marked).filter (adds systemId) := by
  refine filter_outputsOf fun output hmem hne => ?_
  rcases hown output hmem with hadded | ⟨monitor, -, notification, heq⟩
  · obtain ⟨monitor, -, heq⟩ := List.mem_map.mp hadded
    simp [← heq, adds, hne]
  · simp [heq, adds]

/-- A monitor of one vehicle is concerned by calls of its system id. -/
theorem filter_concerns_outputsOf (hown : ∀ output ∈ marked, IsOwn registers monitors output)
    {monitor : ν} (hmonitor : IsMonitorOf registers monitors systemId monitor) :
    (marked.map Prod.snd).filter (concerns systemId monitor) =
      (outputsOf systemId marked).filter (concerns systemId monitor) := by
  refine filter_outputsOf fun output hmem hne => ?_
  rcases hown output hmem with hadded | ⟨monitor', hmem', notification, heq⟩
  · obtain ⟨monitor', -, heq⟩ := List.mem_map.mp hadded
    simp [← heq, concerns, adds, heardBy, hne]
  · have hother : monitor' ≠ monitor := by
      rintro rfl
      exact hne ((hmonitor output.1).mp hmem')
    simp [heq, concerns, adds, heardBy, hother]

variable (registers monitors)

/-- From a tracker without vehicles each system id gets what the run of its own
messages gives, and its monitors hear nothing else. -/
theorem exists_tryFeed_eq_feed (messages : List Message) :
    ∃ last calls, tryFeed (update registers) { monitors := monitors } messages =
        some (last, calls) ∧
      ∀ systemId, last.vehicles systemId = (feed (entryStep registers monitors systemId) none
          (messages.filter fun message => message.sysid == systemId)).1 ∧
        Isolated registers monitors systemId
          (messages.filter fun message => message.sysid == systemId) calls := by
  have hkeyed : IsKeyed (fun _ => (none : Option (TrackedVehicle ν))) := by
    intro systemId tracked h
    cases h
  obtain ⟨last, hlast, hrun⟩ := exists_tryFeed_eq_keyed registers
    (t := { monitors := monitors }) hkeyed messages
  have hown := isOwn_of_mem_feed registers monitors messages
  refine ⟨last, _, hrun, fun systemId => ?_⟩
  obtain ⟨hentry, hcalls⟩ := Prod.mk.inj
    (@feed_keyed _ _ _ _ _ Message.sysid (entryStep registers monitors) systemId
      (fun _ => none) messages)
  have halone := isolated_feed_entryStep registers monitors
    (sysid_of_mem_filter systemId messages)
  rw [← hcalls] at halone
  obtain ⟨vehicle, notifications, hvehicle, hheard⟩ := halone.heard
  have hadds := filter_adds_outputsOf systemId hown
  refine ⟨hlast ▸ hentry, hadds.trans halone.added, vehicle, notifications, hvehicle,
    fun monitor hmonitor => ?_⟩
  exact (filter_concerns_outputsOf hown hmonitor).trans
    ((hheard monitor hmonitor).trans (by rw [← hadds]))

/-- A tracker that starts without vehicles takes every list of messages.  Each system id that
is heard of is added once, by one call on each monitor, before any of its monitors hears a
notification; and what a monitor that is registered with this vehicle hears is what the
vehicle notifies of, and what the monitor would hear, if there were only the messages of
this system id. -/
theorem tryFeed_update_isolated (messages : List Message) :
    ∃ last calls, tryFeed (update registers) { monitors := monitors } messages =
        some (last, calls) ∧
      ∀ systemId,
        Isolated registers monitors systemId
          (messages.filter fun message => message.sysid == systemId) calls ∧
        ∃ alone callsAlone, tryFeed (update registers) { monitors := monitors }
            (messages.filter fun message => message.sysid == systemId) =
              some (alone, callsAlone) ∧
          last.vehicles systemId = alone.vehicles systemId ∧
          ∀ monitor, IsMonitorOf registers monitors systemId monitor →
            calls.filterMap (heardBy monitor) = callsAlone.filterMap (heardBy monitor) := by
  obtain ⟨last, calls, hrun, hshared⟩ := exists_tryFeed_eq_feed registers monitors messages
  refine ⟨last, calls, hrun, fun systemId => ⟨(hshared systemId).2, ?_⟩⟩
  obtain ⟨alone, callsAlone, hrunAlone, hown⟩ := exists_tryFeed_eq_feed registers
    monitors (messages.filter fun message => message.sysid == systemId)
  obtain ⟨hvehicle, hisolated⟩ := hown systemId
  rw [List.filter_filter] at hvehicle hisolated
  simp only [Bool.and_self] at hvehicle hisolated
  refine ⟨alone, callsAlone, hrunAlone, (hshared systemId).1.trans hvehicle.symm, ?_⟩
  intro monitor hmonitor
  obtain ⟨vehicle, notifications, hrunVehicle, hheard⟩ := (hshared systemId).2.heard
  obtain ⟨vehicle', notifications', hrunVehicle', hheard'⟩ := hisolated.heard
  rw [hrunVehicle, Option.some.injEq, Prod.mk.injEq] at hrunVehicle'
  rw [← filterMap_heardBy_concerns systemId, hheard monitor hmonitor, (hshared systemId).2.added,
    ← filterMap_heardBy_concerns systemId monitor callsAlone, hheard' monitor hmonitor,
    hisolated.added, hrunVehicle'.2]

end Isolation

end VehicleTracker
end Airmap.Mavlink
