import PlatformSdk.Codec.Json.Traffic
import PlatformSdk.Machine.Subscribers
import PlatformSdk.Net.Mqtt.Boost.Client

/-!
# Monitoring traffic

A `Traffic::Monitor` subscribes with its MQTT client to the two topics of a flight and
hands what is published there to its subscribers.  The module shows what a subscriber
is handed, whatever the broker publishes, unless decoding it is undefined.
-/

namespace Airmap.Rest.Traffic

open Codec.Json.Traffic (Memory)
open Machine

/-- `Traffic::Update::Type`. -/
inductive UpdateType where
  | unknown
  | situationalAwareness
  | alert
  deriving DecidableEq

/-- What decoding uses of libraries: the texts of documents, and conversions. -/
structure Decoder where
  text : Json.Text
  conversions : Codec.Json.Traffic.Conversions

/-- The updates in the contents of a publication, as `handle_publish` decodes them. -/
def Decoder.updates (decoder : Decoder) (memory : ℕ → Memory) (contents : String) :
    Attempt (List Traffic.Update) := do
  let j ← Attempt.ofExcept (decoder.text.parse contents)
  Codec.Json.Traffic.decodeAll decoder.conversions memory (← j.member "traffic")

/-- An update without properties makes the contents undefined. -/
example {decoder : Decoder} {contents : String}
    (h : decoder.text.parse contents = .ok (.object [("traffic", .array [.object []])]))
    (memory : ℕ → Memory) : decoder.updates memory contents = .undefined := by
  rw [Decoder.updates, h]
  rfl

/-- For these contents and no others, one aircraft is at a longitude of zero or of one. -/
def decoderOfPositions : Decoder where
  text :=
    { parse := fun contents =>
        match Codec.Json.Traffic.zeroOrOne contents with
        | some _ => .ok (.object
            [("traffic", .array [Codec.Json.Traffic.positionAt contents])])
        | none => .error "parse error"
      dump := fun _ => "" }
  conversions := Codec.Json.Traffic.conversionsOfZeroOrOne

/-- All that is not initialized is zero. -/
def memoryOfZeros (_ : ℕ) : Memory := ⟨Codec.Json.Traffic.initialUpdate, 0⟩

/-- The topic of the situational awareness for a flight. -/
def saTopic (flightId : String) : String := "uav/traffic/sa/" ++ flightId

/-- The topic of the alerts for a flight. -/
def alertTopic (flightId : String) : String := "uav/traffic/alert/" ++ flightId

/-- `Traffic::Monitor`.  Both subscriptions have the same callback, which calls
`handle_publish`. -/
structure Monitor (ς : Type*) where
  flightId : String
  mqttClient : Net.Mqtt.Boost.Client Unit
  subscribers : List ς := []

namespace Monitor

variable {ς : Type*}

/-- `Monitor::create` and `finalize`, where `async_subscribe` returns these ids. -/
def create (flightId : String) (saId alertId : UInt16) : Monitor ς where
  flightId := flightId
  mqttClient := (Net.Mqtt.Boost.Client.create.subscribe (saTopic flightId)
    .exactlyOnce () saId).subscribe (alertTopic flightId) .exactlyOnce () alertId

/-- The type of the updates that are published on a topic. -/
def typeOf (topic : String) : UpdateType :=
  if "uav/traffic/sa".toList <+: topic.toList then .situationalAwareness
  else if "uav/traffic/alert".toList <+: topic.toList then .alert
  else .unknown

/-- `Monitor::handle_publish`, which throws where the contents are not JSON, or not that of
updates. -/
def handlePublish (decoder : Decoder) (memory : ℕ → Memory) (topic contents : String)
    (m : Monitor ς) : Attempt (List (ς × UpdateType × List Traffic.Update)) :=
  (decoder.updates memory contents).bind fun update =>
    .returns (m.subscribers.map fun subscriber => (subscriber, typeOf topic, update))

/-- The callbacks that the MQTT client calls; an exception of one of them ends the
calls, and there is no result where one of them is undefined. -/
def callBack (decoder : Decoder) (memory : ℕ → Memory) (m : Monitor ς) :
    List (Unit × String × String) → Option (List (ς × UpdateType × List Traffic.Update))
  | [] => some []
  | (_, topic, contents) :: calls =>
      match m.handlePublish decoder memory topic contents with
      | .undefined => none
      | .throws _ => some []
      | .returns handed => (callBack decoder memory m calls).map (handed ++ ·)

/-- What can happen to a monitor.  A publication comes with what stands in the variables
that decoding it leaves uninitialized. -/
inductive Event (ς : Type*) where
  | subscribe (subscriber : ς)
  | unsubscribe (subscriber : ς)
  | publish (topic contents : String) (memory : ℕ → Memory)
  | destroy

variable [DecidableEq ς] (decoder : Decoder)

/-- One event, and what it hands to whom.  A monitor that was destroyed is not there any
more, and the callback finds its weak pointer expired. -/
def step : Option (Monitor ς) → Event ς →
    Option (Option (Monitor ς) × List (ς × UpdateType × List Traffic.Update))
  | none, _ => some (none, [])
  | some m, .subscribe subscriber =>
      some (some { m with subscribers := insertSubscriber subscriber m.subscribers }, [])
  | some m, .unsubscribe subscriber =>
      some (some { m with subscribers := m.subscribers.erase subscriber }, [])
  | some m, .publish topic contents memory =>
      (m.callBack decoder memory (m.mqttClient.handlePublish topic contents)).map
        (Prod.mk (some m))
  | some _, .destroy => some (none, [])

/-! ## The topics -/

variable (flightId : String)

omit [DecidableEq ς]

theorem typeOf_saTopic : typeOf (saTopic flightId) = .situationalAwareness := by
  have happend : (saTopic flightId).toList = "uav/traffic/sa/".toList ++ flightId.toList :=
    String.toList_append
  have hstarts : "uav/traffic/sa".toList <+: "uav/traffic/sa/".toList := by simp
  rw [typeOf, happend, if_pos (hstarts.trans (List.prefix_append _ _))]

theorem typeOf_alertTopic : typeOf (alertTopic flightId) = .alert := by
  have happend : (alertTopic flightId).toList =
      "uav/traffic/alert/".toList ++ flightId.toList := String.toList_append
  have hstarts : "uav/traffic/alert".toList <+: "uav/traffic/alert/".toList := by simp
  have hother : ¬ "uav/traffic/sa".toList <+: "uav/traffic/alert/".toList := by simp
  have hshort : "uav/traffic/sa".toList.length ≤ "uav/traffic/alert/".toList.length := by simp
  rw [typeOf, happend, if_neg, if_pos (hstarts.trans (List.prefix_append _ _))]
  exact fun h => hother (List.prefix_of_prefix_length_le h (List.prefix_append _ _) hshort)

theorem saTopic_ne_alertTopic : saTopic flightId ≠ alertTopic flightId := by
  intro h
  have htype := congrArg typeOf h
  rw [typeOf_saTopic, typeOf_alertTopic] at htype
  cases htype

/-! ## What a subscriber is handed -/

/-- The type of the updates on a topic, if it is one of the flight. -/
def topicType (topic : String) : Option UpdateType :=
  if topic = saTopic flightId then some .situationalAwareness
  else if topic = alertTopic flightId then some .alert
  else none

/-- What a publication brings to the subscribers of a flight: nothing where it does not
concern the flight or cannot be decoded, and no result where decoding it is undefined. -/
def updatesOf (topic contents : String) (memory : ℕ → Memory) :
    Option (List (UpdateType × List Traffic.Update)) :=
  match topicType flightId topic with
  | none => some []
  | some type =>
      match decoder.updates memory contents with
      | .returns update => some [(type, update)]
      | .throws _ => some []
      | .undefined => none

/-- What an event does with the subscribers of a monitor that is there. -/
def operationsOf : Event ς → Option (List (Operation ς (UpdateType × List Traffic.Update)))
  | .subscribe subscriber => some [.subscribe subscriber]
  | .unsubscribe subscriber => some [.unsubscribe subscriber]
  | .publish topic contents memory =>
      (updatesOf decoder flightId topic contents memory).map (List.map .publish)
  | .destroy => some []

/-- The event leaves the monitor there. -/
def Event.keeps : Event ς → Bool
  | .destroy => false
  | .subscribe _ | .unsubscribe _ | .publish _ _ _ => true

/-- The client calls back once for what is published on one of the topics of the flight,
and not at all for other topics. -/
theorem handlePublish_create (saId alertId : UInt16) (topic contents : String) :
    (create (ς := ς) flightId saId alertId).mqttClient.handlePublish topic contents =
      ((topicType flightId topic).map fun _ => ((), topic, contents)).toList := by
  have hne := saTopic_ne_alertTopic flightId
  have htopics : (create (ς := ς) flightId saId alertId).mqttClient.topicMap =
      [⟨0, saTopic flightId, ()⟩, ⟨1, alertTopic flightId, ()⟩] := rfl
  rw [Net.Mqtt.Boost.Client.handlePublish, htopics]
  by_cases hsa : topic = saTopic flightId
  · subst hsa
    simp [topicType, hne.symm]
  · by_cases halert : topic = alertTopic flightId
    · subst halert
      simp [topicType, hne, hne.symm]
    · simp [topicType, Ne.symm hsa, Ne.symm halert, hsa, halert]

/-- On a topic of the flight the type is that of the topic. -/
theorem typeOf_of_topicType {topic : String} {type : UpdateType}
    (h : topicType flightId topic = some type) : typeOf topic = type := by
  simp only [topicType] at h
  split at h
  · next hsa =>
      cases h
      rw [hsa, typeOf_saTopic]
  · split at h
    · next halert =>
        cases h
        rw [halert, typeOf_alertTopic]
    · cases h

/-- What is published is handed to each subscriber if it concerns the flight. -/
theorem callBack_eq {m : Monitor ς} {saId alertId : UInt16}
    (hclient : m.mqttClient = (create (ς := ς) flightId saId alertId).mqttClient)
    (topic contents : String) (memory : ℕ → Memory) :
    m.callBack decoder memory (m.mqttClient.handlePublish topic contents) =
      (updatesOf decoder flightId topic contents memory).map
        (List.flatMap fun update => m.subscribers.map fun subscriber => (subscriber, update)) := by
  rw [hclient, handlePublish_create, updatesOf]
  cases htype : topicType flightId topic with
  | none => rfl
  | some type =>
      have hcall : m.callBack decoder memory [((), topic, contents)] =
          match decoder.updates memory contents with
          | .undefined => none
          | .throws _ => some []
          | .returns update =>
              some (m.subscribers.map fun subscriber => (subscriber, typeOf topic, update)) := by
        simp only [callBack, handlePublish]
        cases decoder.updates memory contents with
        | undefined | throws => rfl
        | returns update => simp [Attempt.bind]
      rw [Option.map_some, Option.toList_some, hcall, typeOf_of_topicType flightId htype]
      cases decoder.updates memory contents with
      | undefined | throws => rfl
      | returns update => simp

variable [DecidableEq ς]

theorem tryFeed_step_none (events : List (Event ς)) :
    tryFeed (step decoder) (none : Option (Monitor ς)) events = some (none, []) := by
  induction events with
  | nil => rfl
  | cons event events ih => simp [tryFeed, step, ih]

/-- As long as a monitor is left there, it does with its subscribers what the event says. -/
theorem step_eq {m : Monitor ς} {saId alertId : UInt16}
    (hclient : m.mqttClient = (create (ς := ς) flightId saId alertId).mqttClient)
    {event : Event ς} (hkeeps : event.keeps = true) :
    step decoder (some m) event = (operationsOf decoder flightId event).map fun operations =>
      (some { m with subscribers := (feed operate m.subscribers operations).1 },
        (feed operate m.subscribers operations).2) := by
  cases event with
  | subscribe subscriber | unsubscribe subscriber => rfl
  | publish topic contents memory =>
      simp only [step, operationsOf, callBack_eq decoder flightId hclient, Option.map_map,
        Function.comp_def, feed_operate_publish]
  | destroy => cases hkeeps

theorem tryFeed_step_eq {m : Monitor ς} {saId alertId : UInt16}
    (hclient : m.mqttClient = (create (ς := ς) flightId saId alertId).mqttClient)
    (events : List (Event ς)) :
    (tryFeed (step decoder) (some m) events).map Prod.snd =
      ((events.takeWhile Event.keeps).mapM (operationsOf decoder flightId)).map
        fun operations => (feed operate m.subscribers operations.flatten).2 := by
  induction events generalizing m with
  | nil => rfl
  | cons event events ih =>
      by_cases hkeeps : event.keeps = true
      · rw [List.takeWhile_cons_of_pos hkeeps, List.mapM_cons, tryFeed,
          step_eq decoder flightId hclient hkeeps]
        cases operationsOf decoder flightId event with
        | none => rfl
        | some operations =>
            have hrest := ih (m := { m with
              subscribers := (feed operate m.subscribers operations).1 }) hclient
            simp only [Option.map_some]
            generalize tryFeed (step decoder) _ events = last at hrest ⊢
            generalize (events.takeWhile Event.keeps).mapM (operationsOf decoder flightId) =
              rest at hrest ⊢
            rcases last with - | ⟨last, outputs⟩ <;> rcases rest with - | rest
            · rfl
            · cases hrest
            · cases hrest
            · have houtputs : outputs = _ := Option.some.inj hrest
              simp [houtputs, feed_append]
      · rw [List.takeWhile_cons_of_neg hkeeps]
        cases event with
        | destroy => simp [tryFeed, step, tryFeed_step_none]
        | subscribe | unsubscribe | publish => exact absurd rfl hkeeps

/-- From its creation to its destruction a monitor hands each subscriber, once and in
order, the updates that are published on the two topics of its flight while he is
subscribed, with the type of their topic, and nothing else; what cannot be read as
updates is left out, and what comes after the destruction is handed to nobody.  There is
no result if decoding something that is published on the topics is undefined. -/
theorem handed_eq_received (saId alertId : UInt16) (events : List (Event ς))
    (subscriber : ς) :
    (tryFeed (step decoder) (some (create flightId saId alertId)) events).map
        (fun last => outputsOf subscriber last.2) =
      ((events.takeWhile Event.keeps).mapM (operationsOf decoder flightId)).map
        fun operations => received subscriber false operations.flatten := by
  have heq := tryFeed_step_eq decoder flightId (m := create flightId saId alertId) rfl events
  have houtputs := congrArg (Option.map (outputsOf subscriber)) heq
  rw [Option.map_map, Option.map_map] at houtputs
  refine houtputs.trans (congrArg (fun f => Option.map f _) (funext fun operations => ?_))
  exact outputsOf_feed_operate List.nodup_nil subscriber _

end Monitor
end Airmap.Rest.Traffic
