import PlatformSdk.Rest.Traffic

/-!
# From the flights to the streams

The traffic monitors of all flights of a daemon have one subscriber, its
`FanOutTrafficMonitor`, which hands what it gets to subscribers of its own.  The module
shows what such a subscriber gets.
-/

namespace Airmap.Monitor

open Codec.Json.Traffic (Memory)
open Machine Rest.Traffic

variable {ς : Type*} [DecidableEq ς]

/-- `FanOutTrafficMonitor`. -/
structure FanOutTrafficMonitor (ς : Type*) where
  subscribers : List ς := []

namespace FanOutTrafficMonitor

def subscribe (subscriber : ς) (f : FanOutTrafficMonitor ς) : FanOutTrafficMonitor ς :=
  { f with subscribers := insertSubscriber subscriber f.subscribers }

def unsubscribe (subscriber : ς) (f : FanOutTrafficMonitor ς) : FanOutTrafficMonitor ς :=
  { f with subscribers := f.subscribers.erase subscriber }

omit [DecidableEq ς] in
/-- `FanOutTrafficMonitor::handle_update`, which calls the subscribers of a copy of the
set. -/
def handleUpdate (update : UpdateType × List Traffic.Update) (f : FanOutTrafficMonitor ς) :
    List (ς × UpdateType × List Traffic.Update) :=
  let copy := f.subscribers
  copy.map fun subscriber => (subscriber, update)

/-- One call of a function, and the calls that it makes. -/
def step (f : FanOutTrafficMonitor ς) :
    Operation ς (UpdateType × List Traffic.Update) →
      FanOutTrafficMonitor ς × List (ς × UpdateType × List Traffic.Update)
  | .subscribe subscriber => (f.subscribe subscriber, [])
  | .unsubscribe subscriber => (f.unsubscribe subscriber, [])
  | .publish update => (f, f.handleUpdate update)

/-- The set of subscribers is one as any other. -/
theorem feed_step (f : FanOutTrafficMonitor ς)
    (operations : List (Operation ς (UpdateType × List Traffic.Update))) :
    (feed step f operations).2 = (feed operate f.subscribers operations).2 := by
  apply (feed_related (fun f subscribers => f.subscribers = subscribers) ?_ rfl _).2
  rintro f - (subscriber | subscriber | update) rfl
  · exact ⟨rfl, rfl⟩
  · exact ⟨rfl, rfl⟩
  · exact ⟨rfl, rfl⟩

/-! ## The monitors of the flights -/

/-- What can happen: a submitter is given the monitor of its flight and subscribes the
`FanOutTrafficMonitor` to it, or drops the monitor; the broker publishes something to the
client of a monitor; somebody subscribes or unsubscribes. -/
inductive Event (ς : Type*) where
  | monitored (number : ℕ) (flightId : String) (saId alertId : UInt16)
  | dropped (number : ℕ)
  | publish (number : ℕ) (topic contents : String) (memory : ℕ → Memory)
  | subscribe (subscriber : ς)
  | unsubscribe (subscriber : ς)

/-- An event of the monitor with the given number; what it hands to its subscriber is
handed on. -/
def monitorStep (decoder : Decoder) (monitors : ℕ → Option (Monitor Unit)) (number : ℕ)
    (event : Monitor.Event Unit) :
    Option ((ℕ → Option (Monitor Unit)) ×
      List (Operation ς (UpdateType × List Traffic.Update))) :=
  (Monitor.step decoder (monitors number) event).map fun (monitor, handed) =>
    (Function.update monitors number monitor, handed.map fun output => .publish output.2)

/-- What an event does to the monitors, and what reaches the `FanOutTrafficMonitor`. -/
def monitorsStep (decoder : Decoder) (monitors : ℕ → Option (Monitor Unit)) :
    Event ς → Option ((ℕ → Option (Monitor Unit)) ×
      List (Operation ς (UpdateType × List Traffic.Update)))
  | .monitored number flightId saId alertId =>
      monitorStep decoder (Function.update monitors number
        (some (Monitor.create flightId saId alertId))) number (.subscribe ())
  | .dropped number => monitorStep decoder monitors number .destroy
  | .publish number topic contents memory =>
      monitorStep decoder monitors number (.publish topic contents memory)
  | .subscribe subscriber => some (monitors, [.subscribe subscriber])
  | .unsubscribe subscriber => some (monitors, [.unsubscribe subscriber])

/-- What a publication brings to the subscriber of a monitor, if there is one. -/
def broughtTo (decoder : Decoder) (flight : Option String) (topic contents : String)
    (memory : ℕ → Memory) : Option (List (UpdateType × List Traffic.Update)) :=
  match flight with
  | none => some []
  | some flightId => Monitor.updatesOf decoder flightId topic contents memory

/-- The flights that are monitored, and what their topics bring; there is no result where
decoding it is undefined. -/
def flightsStep (decoder : Decoder) (flights : ℕ → Option String) :
    Event ς → Option ((ℕ → Option String) ×
      List (Operation ς (UpdateType × List Traffic.Update)))
  | .monitored number flightId _ _ =>
      some (Function.update flights number (some flightId), [])
  | .dropped number => some (Function.update flights number none, [])
  | .publish number topic contents memory =>
      (broughtTo decoder (flights number) topic contents memory).map fun updates =>
        (flights, updates.map .publish)
  | .subscribe subscriber => some (flights, [.subscribe subscriber])
  | .unsubscribe subscriber => some (flights, [.unsubscribe subscriber])

/-- The monitor is that of the flight, with one subscriber. -/
def IsMonitorOf : Option (Monitor Unit) → Option String → Prop
  | none, none => True
  | some monitor, some flightId =>
      monitor.subscribers = [()] ∧ ∃ saId alertId, monitor.mqttClient =
        (Monitor.create (ς := Unit) flightId saId alertId).mqttClient
  | _, _ => False

/-- The monitors are those of the flights. -/
def Monitors (monitors : ℕ → Option (Monitor Unit)) (flights : ℕ → Option String) : Prop :=
  ∀ number, IsMonitorOf (monitors number) (flights number)

theorem Monitors.update {monitors : ℕ → Option (Monitor Unit)} {flights : ℕ → Option String}
    (h : Monitors monitors flights) {number : ℕ} {monitor : Option (Monitor Unit)}
    {flight : Option String} (hmonitor : IsMonitorOf monitor flight) :
    Monitors (Function.update monitors number monitor)
      (Function.update flights number flight) := by
  intro number'
  by_cases heq : number' = number
  · subst heq
    rwa [Function.update_self, Function.update_self]
  · rw [Function.update_of_ne heq, Function.update_of_ne heq]
    exact h number'

variable (decoder : Decoder)

/-- A monitor hands its subscriber what concerns its flight. -/
theorem IsMonitorOf.publish {monitor : Option (Monitor Unit)} {flight : Option String}
    (h : IsMonitorOf monitor flight) (topic contents : String) (memory : ℕ → Memory) :
    Monitor.step decoder monitor (.publish topic contents memory) =
      (broughtTo decoder flight topic contents memory).map fun updates =>
        (monitor, updates.map fun update => ((), update)) := by
  rcases monitor with - | monitor <;> rcases flight with - | flightId
  · rfl
  · exact h.elim
  · exact h.elim
  · obtain ⟨hsubscribers, saId, alertId, hclient⟩ := h
    simp only [Monitor.step, Monitor.callBack_eq decoder flightId hclient, hsubscribers,
      broughtTo, Option.map_map]
    congr 1
    funext updates
    simp [List.map_eq_flatMap]

omit [DecidableEq ς] in
/-- An event leaves the monitors those of the flights, and makes them hand on what the
topics of these flights bring. -/
theorem monitorsStep_related {monitors : ℕ → Option (Monitor Unit)}
    {flights : ℕ → Option String} (h : Monitors monitors flights) (event : Event ς) :
    Option.Rel (fun next next' => Monitors next.1 next'.1 ∧ next.2 = next'.2)
      (monitorsStep decoder monitors event) (flightsStep decoder flights event) := by
  rcases event with ⟨number, flightId, saId, alertId⟩ | number |
    ⟨number, topic, contents, memory⟩ | subscriber | subscriber
  · simp only [monitorsStep, monitorStep, flightsStep, Function.update_self, Monitor.step,
      Option.map_some, Function.update_idem, List.map_nil]
    exact .some ⟨h.update ⟨rfl, saId, alertId, rfl⟩, rfl⟩
  · have hnone : Monitor.step decoder (monitors number) .destroy = some (none, []) := by
      cases monitors number with
      | none => rfl
      | some monitor => rfl
    simp only [monitorsStep, monitorStep, flightsStep, hnone, Option.map_some, List.map_nil]
    exact .some ⟨h.update trivial, rfl⟩
  · simp only [monitorsStep, monitorStep, flightsStep,
      (h number).publish decoder topic contents memory, Option.map_map]
    cases broughtTo decoder (flights number) topic contents memory with
    | none => exact .none
    | some updates =>
        simp only [Option.map_some, Function.comp_def, Function.update_eq_self, List.map_map]
        exact .some ⟨h, rfl⟩
  · exact .some ⟨h, rfl⟩
  · exact .some ⟨h, rfl⟩

omit [DecidableEq ς] in
/-- The monitors of the flights hand on what the topics of the flights bring. -/
theorem tryFeed_monitorsStep (events : List (Event ς)) :
    (tryFeed (monitorsStep decoder) (fun _ => none) events).map Prod.snd =
      (tryFeed (flightsStep decoder) (fun _ => none) events).map Prod.snd := by
  have hinit : Monitors (fun _ => none) (fun _ => none) := fun _ => trivial
  exact tryFeed_related Monitors (fun _ _ event h => monitorsStep_related decoder h event)
    hinit events

/-- A subscriber of a `FanOutTrafficMonitor` is handed, once and in order, what is
published while it is subscribed on the topics of the flights that are monitored at that
time, and nothing else; what cannot be read as updates is left out, and there is no result
if decoding something that is published is undefined. -/
theorem handed_ofFlights (events : List (Event ς)) (subscriber : ς) :
    (tryFeed (pipe (monitorsStep decoder) step) (fun _ => none, {}) events).map
        (fun last => outputsOf subscriber last.2) =
      (tryFeed (flightsStep decoder) (fun _ => none) events).map
        fun last => received subscriber false last.2 := by
  have hmonitors := congrArg
    (Option.map fun operations => received subscriber false operations)
    (tryFeed_monitorsStep (ς := ς) decoder events)
  rw [Option.map_map, Option.map_map] at hmonitors
  rw [tryFeed_pipe, Option.map_map]
  refine Eq.trans (congrArg (fun f => Option.map f _) (funext fun last => ?_)) hmonitors
  simp only [Function.comp_apply, feed_step]
  exact outputsOf_feed_operate List.nodup_nil subscriber _

/-- Two flights are monitored, and one of them is dropped. -/
example : (tryFeed (pipe (monitorsStep decoderOfPositions) step) (fun _ => none, {})
    [.monitored 0 "a" 1 2, .subscribe "stream", .monitored 1 "b" 1 2,
      .publish 1 "uav/traffic/alert/b" "1" memoryOfZeros, .dropped 0,
      .publish 0 "uav/traffic/sa/a" "0" memoryOfZeros]).map
        (fun last => outputsOf "stream" last.2) =
    some [(.alert, [Codec.Json.Traffic.updateAtOne])] := by
  decide +kernel

end FanOutTrafficMonitor
end Airmap.Monitor
