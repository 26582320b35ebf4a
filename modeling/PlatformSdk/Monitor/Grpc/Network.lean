import Mathlib.Data.List.Forall2
import PlatformSdk.Monitor.FanOutTrafficMonitor
import PlatformSdk.Monitor.Grpc.Service.Delivery
import PlatformSdk.Monitor.Grpc.UpdateStream

/-!
# From the topics to the receivers

A daemon streams what its traffic monitors hand out to clients in other processes.  The
module runs a service together with the clients of its streams and shows, from the topics
of the flights to the receivers, that updates are neither lost nor duplicated nor reordered
while a stream lives.
-/

namespace Airmap.Monitor.Grpc

open Machine (Meets feed feed_append filterMap_concat_none filterMap_concat_some
  observations operate outputsOf received run tryBehind tryFeed)

variable {ρ υ ω τ : Type*}

/-! ## What a service writes -/

namespace Service

/-- The updates that an event hands to a stream. -/
def handed (s : Service ω) (k : ℕ) : Event υ → List (List υ)
  | .update updates => if k ∈ s.subscribers then [updates] else []
  | .run | .next _ _ | .turn => []

variable {encode : υ → ω} {s s' : Service ω}

/-- What the operations of an event hand to a subscriber is what is handed to its stream. -/
theorem outputsOf_observe {subscribers : List ℕ}
    (hsame : ∀ k, k ∈ s.subscribers ↔ k ∈ subscribers) (hnodup : subscribers.Nodup)
    (event : Event υ) (k : ℕ) :
    outputsOf k (feed operate subscribers
      ((s.observe event).filterMap (Observation.operation (ω := ω)))).2 =
        s.handed k event := by
  cases event with
  | run => rfl
  | next i ok =>
      rw [observe]
      cases s.outstanding[i]? with
      | none => rfl
      | some operation => rfl
  | turn =>
      simp only [observe]
      split
      · split <;> rfl
      · rfl
  | update updates =>
      have hoperate : (feed operate subscribers ((s.observe (.update updates)).filterMap
          (Observation.operation (ω := ω)))).2 =
          subscribers.map fun subscriber => (subscriber, updates) := List.append_nil _
      rw [hoperate, handed]
      by_cases hmem : k ∈ s.subscribers
      · rw [if_pos hmem, Machine.outputsOf_map_const hnodup ((hsame k).mp hmem)]
      · rw [if_neg hmem,
          Machine.outputsOf_map_const_of_not_mem fun hmem' => hmem ((hsame k).mpr hmem')]

/-- What an event adds to what the traffic monitor handed to a stream. -/
theorem Delivers.outputsOf_observe {shown : List (Observation υ ω)}
    (h : Delivers encode shown s) (event : Event υ) (k : ℕ) :
    outputsOf k (feed operate []
        ((shown ++ s.observe event).filterMap Observation.operation)).2 =
      outputsOf k (feed operate [] (shown.filterMap Observation.operation)).2 ++
        s.handed k event := by
  have hnodup : (feed operate [] (shown.filterMap Observation.operation)).1.Nodup :=
    Machine.feed_invariant List.Nodup (fun _ operation h => Machine.nodup_operate h operation)
      List.nodup_nil _
  rw [List.filterMap_append, feed_append, Machine.outputsOf_append,
    Service.outputsOf_observe h.subscribed hnodup]

end Service

/-! ## The service and its clients -/

/-- A service, and the clients of its streams.  gRPC brings the messages of a stream to its
client in the order in which they are written; those that the client did not read yet are
on the wire.  The invocation `k` of the service answers the call of the client `k`.  What
a client decodes a part of a message into is not initialized, and read together with it. -/
structure Network (ρ ω υ τ : Type*) where
  service : Service ω := .start
  wire : ℕ → List (List ω) := fun _ => []
  connections : ℕ → Client.Connection ρ (ω × τ) υ := fun _ => {}

namespace Network

/-- What can happen: something at the service, a client reads the next message into what
stands in its variables, or anything else happens to a client. -/
inductive Event (ρ ω υ τ : Type*) where
  | service (event : Service.Event υ)
  | read (k : ℕ) (targets : ℕ → τ)
  | client (k : ℕ) (event : Client.Connection.Event ρ (ω × τ))

/-- A message, each of its parts with what it is decoded into. -/
def into (targets : ℕ → τ) (message : List ω) : List (ω × τ) :=
  message.zipIdx.map fun part => (part.1, targets part.2)

/-- The messages that an event brings to a client. -/
def messages : Client.Connection.Event ρ (ω × τ) → List (List (ω × τ))
  | .proceed (.read (some message)) => [message]
  | .proceed _ | .execute | .subscribe _ | .unsubscribe _ => []

/-- Something happens to a client. -/
def stepClient [DecidableEq ρ] (decode : ω × τ → υ) (k : ℕ)
    (event : Client.Connection.Event ρ (ω × τ)) (n : Network ρ ω υ τ) :
    Option (Network ρ ω υ τ) :=
  ((n.connections k).step decode event).map fun connection =>
    { n with connections := Function.update n.connections k connection }

def step [DecidableEq ρ] (encode : υ → ω) (decode : ω × τ → υ) (n : Network ρ ω υ τ) :
    Event ρ ω υ τ → Option (Network ρ ω υ τ)
  | .service event =>
      (n.service.step encode event).map fun service =>
        { n with
          service := service
          wire := fun k => n.wire k ++ (n.service.handed k event).map (List.map encode) }
  | .read k targets =>
      match n.wire k with
      | [] => none
      | message :: rest =>
          { n with wire := Function.update n.wire k rest }.stepClient decode k
            (.proceed (.read (some (into targets message))))
  | .client k event =>
      match messages event with
      | [] => n.stepClient decode k event
      | _ :: _ => none

/-- What a step shows: something at the service, or something at a client. -/
inductive Observation (ρ ω υ : Type*) where
  | service (observation : Service.Observation υ ω)
  | client (k : ℕ) (observation : Client.Connection.Observation ρ υ)

def observe (n : Network ρ ω υ τ) : Event ρ ω υ τ → List (Observation ρ ω υ)
  | .service event => (n.service.observe event).map .service
  | .read _ _ => []
  | .client k event => ((n.connections k).observe event).map (.client k)

namespace Observation

def ofService : Observation ρ ω υ → Option (Service.Observation υ ω)
  | .service observation => some observation
  | .client _ _ => none

def ofClient (k : ℕ) : Observation ρ ω υ → Option (Client.Connection.Observation ρ υ)
  | .service _ => none
  | .client j observation => if j = k then some observation else none

/-- What was done with the traffic monitor of the daemon. -/
def traffic (observation : Observation ρ ω υ) : Option (Machine.Operation ℕ (List υ)) :=
  observation.ofService.bind Service.Observation.operation

/-- What was done with the stream of a client. -/
def stream (k : ℕ) (observation : Observation ρ ω υ) :
    Option (Machine.Operation ρ (List υ)) :=
  (observation.ofClient k).bind Client.Connection.Observation.operation

/-- The update that a receiver of a client was handed. -/
def handedTo [DecidableEq ρ] (k : ℕ) (receiver : ρ) (observation : Observation ρ ω υ) :
    Option (List υ) :=
  (observation.ofClient k).bind (Client.Connection.Observation.handedTo receiver)

@[simp] theorem filterMap_ofService_service (shown : List (Service.Observation υ ω)) :
    (shown.map (service (ρ := ρ))).filterMap ofService = shown := by
  rw [List.filterMap_map]
  exact List.filterMap_some

@[simp] theorem filterMap_ofService_client (k : ℕ)
    (shown : List (Client.Connection.Observation ρ υ)) :
    (shown.map (client (ω := ω) k)).filterMap ofService = [] := by
  rw [List.filterMap_map]
  exact List.filterMap_eq_nil_iff.mpr fun _ _ => rfl

@[simp] theorem filterMap_ofClient_service (k : ℕ)
    (shown : List (Service.Observation υ ω)) :
    (shown.map (service (ρ := ρ))).filterMap (ofClient k) = [] := by
  rw [List.filterMap_map]
  exact List.filterMap_eq_nil_iff.mpr fun _ _ => rfl

theorem filterMap_ofClient_client (j k : ℕ)
    (shown : List (Client.Connection.Observation ρ υ)) :
    (shown.map (client (ω := ω) j)).filterMap (ofClient k) = if j = k then shown else [] := by
  rw [List.filterMap_map]
  split
  · next heq =>
      rw [show ofClient k ∘ client (ω := ω) j = some from funext fun _ => if_pos heq]
      exact List.filterMap_some
  · next hne => exact List.filterMap_eq_nil_iff.mpr fun _ _ => if_neg hne

theorem filterMap_traffic (shown : List (Observation ρ ω υ)) :
    shown.filterMap traffic =
      (shown.filterMap ofService).filterMap Service.Observation.operation :=
  List.filterMap_filterMap.symm

theorem filterMap_stream (k : ℕ) (shown : List (Observation ρ ω υ)) :
    shown.filterMap (stream k) =
      (shown.filterMap (ofClient k)).filterMap Client.Connection.Observation.operation :=
  List.filterMap_filterMap.symm

theorem filterMap_handedTo [DecidableEq ρ] (k : ℕ) (receiver : ρ)
    (shown : List (Observation ρ ω υ)) :
    shown.filterMap (handedTo k receiver) = (shown.filterMap (ofClient k)).filterMap
      (Client.Connection.Observation.handedTo receiver) :=
  List.filterMap_filterMap.symm

end Observation

/-! ## What is on its way -/

/-- An update that is decoded from the encoding of another one, whatever it is decoded
into. -/
def DecodedFrom (encode : υ → ω) (decode : ω × τ → υ) (decoded update : υ) : Prop :=
  ∃ target, decoded = decode (encode update, target)

/-- The first of some updates were received, each of them as `R` says, and the encodings
of the others are on the wire. -/
def Conveyed (R : υ → υ → Prop) (encode : υ → ω) (updates dispatched : List (List υ))
    (wire : List (List ω)) : Prop :=
  ∃ read onWire, updates = read ++ onWire ∧ wire = onWire.map (List.map encode) ∧
    List.Forall₂ (List.Forall₂ R) dispatched read

section Conveyed

variable {R R' : υ → υ → Prop} {encode : υ → ω} {decode : ω × τ → υ}
  {updates dispatched : List (List υ)} {wire : List (List ω)}

theorem Conveyed.mono (h : Conveyed R encode updates dispatched wire)
    (himp : ∀ decoded update, R decoded update → R' decoded update) :
    Conveyed R' encode updates dispatched wire := by
  obtain ⟨read, onWire, hupdates, hwire, hread⟩ := h
  exact ⟨read, onWire, hupdates, hwire, hread.imp fun _ _ h => h.imp himp⟩

theorem Conveyed.write (h : Conveyed R encode updates dispatched wire)
    (new : List (List υ)) :
    Conveyed R encode (updates ++ new) dispatched (wire ++ new.map (List.map encode)) := by
  obtain ⟨read, onWire, rfl, rfl, hread⟩ := h
  exact ⟨read, onWire ++ new, List.append_assoc .., by rw [List.map_append], hread⟩

theorem forall₂_decode_into (targets : ℕ → τ) (update : List υ) :
    List.Forall₂ (DecodedFrom encode decode)
      ((into targets (update.map encode)).map decode) update := by
  rw [into, List.map_map, List.forall₂_map_left_iff]
  generalize 0 = i
  induction update generalizing i with
  | nil => exact .nil
  | cons first rest ih =>
      rw [List.map_cons, List.zipIdx_cons]
      exact .cons ⟨targets i, rfl⟩ (ih (i + 1))

theorem Conveyed.read {message : List ω} {rest : List (List ω)}
    (h : Conveyed (DecodedFrom encode decode) encode updates dispatched (message :: rest))
    (targets : ℕ → τ) :
    Conveyed (DecodedFrom encode decode) encode updates
      (dispatched ++ [(into targets message).map decode]) rest := by
  obtain ⟨read, onWire, rfl, hwire, hread⟩ := h
  cases onWire with
  | nil => cases hwire
  | cons update onWire =>
      obtain ⟨rfl, rfl⟩ := List.cons_eq_cons.mp hwire
      exact ⟨read ++ [update], onWire, by simp, rfl,
        List.rel_append hread (.cons (forall₂_decode_into targets update) .nil)⟩

end Conveyed

/-! ## Every step -/

variable [DecidableEq ρ] {encode : υ → ω} {decode : ω × τ → υ} {n n' : Network ρ ω υ τ}

/-- What a client read of its stream, and what it still can read, is what the traffic
monitor handed to the stream. -/
structure Conveys (encode : υ → ω) (decode : ω × τ → υ) (shown : List (Observation ρ ω υ))
    (n : Network ρ ω υ τ) : Prop where
  service : Service.Delivers encode (shown.filterMap Observation.ofService) n.service
  client : ∀ k, Client.Connection.Hands (shown.filterMap (Observation.ofClient k))
    (n.connections k)
  conveyed : ∀ k, Conveyed (DecodedFrom encode decode) encode
    (outputsOf k (feed operate [] ((shown.filterMap Observation.ofService).filterMap
      Service.Observation.operation)).2)
    ((n.connections k).invocation.dispatched.filterMap Client.Task.update) (n.wire k)

/-- Updates arrive while no subscribed stream is being written one. -/
def UpdatesAlone (n : Network ρ ω υ τ) : Event ρ ω υ τ → Prop
  | .service event => n.service.UpdatesAlone event
  | .read _ _ | .client _ _ => True

theorem conveys_start (encode : υ → ω) (decode : ω × τ → υ) :
    Conveys encode decode [] ({} : Network ρ ω υ τ) where
  service := Service.delivers_start
  client := fun _ => Client.Connection.hands_start
  conveyed := fun _ => ⟨[], [], rfl, rfl, .nil⟩

/-- Something happens at the service. -/
theorem Conveys.stepService {shown : List (Observation ρ ω υ)} {event : Service.Event υ}
    (h : Conveys encode decode shown n) (halone : n.service.UpdatesAlone event)
    (hstep : n.step encode decode (.service event) = some n') :
    Conveys encode decode (shown ++ n.observe (.service event)) n' := by
  obtain ⟨service, hservice, rfl⟩ := Option.map_eq_some_iff.mp hstep
  have hshown : (shown ++ n.observe (.service event)).filterMap Observation.ofService =
      shown.filterMap Observation.ofService ++ n.service.observe event := by
    rw [List.filterMap_append, observe, Observation.filterMap_ofService_service]
  refine ⟨?_, ?_, ?_⟩
  · rw [hshown]
    exact h.service.step halone hservice
  · intro k
    rw [List.filterMap_append, observe, Observation.filterMap_ofClient_service,
      List.append_nil]
    exact h.client k
  · intro k
    rw [hshown, h.service.outputsOf_observe]
    exact (h.conveyed k).write _

/-- What a client reads is what it dispatches for the receivers. -/
theorem dispatched_step {c c' : Client.Connection ρ (ω × τ) υ}
    {event : Client.Connection.Event ρ (ω × τ)} (hwaits : c.invocation.IsWaiting)
    (hstep : c.step decode event = some c') :
    c'.invocation.dispatched.filterMap Client.Task.update =
      c.invocation.dispatched.filterMap Client.Task.update ++
        (messages event).map (List.map decode) := by
  cases event with
  | proceed event =>
      obtain ⟨invocation, hinvocation, rfl⟩ := Option.map_eq_some_iff.mp hstep
      have hcases := Client.ConnectToUpdatesInvocation.step_cases hwaits hinvocation
      rw [hcases.dispatched, List.filterMap_append]
      cases hcases with
      | accepted | refused | read | ended | finished => rfl
  | execute =>
      simp only [Client.Connection.step] at hstep
      split at hstep
      · cases hstep
      all_goals
        cases hstep
        exact (List.append_nil _).symm
  | subscribe receiver | unsubscribe receiver =>
      simp only [Client.Connection.step] at hstep
      split at hstep
      · cases hstep
        exact (List.append_nil _).symm
      · cases hstep

/-- Something happens to a client, which takes what it reads off the wire. -/
theorem Conveys.stepClient {shown : List (Observation ρ ω υ)} {k : ℕ}
    {event : Client.Connection.Event ρ (ω × τ)} {rest : List (List ω)}
    (h : Conveys encode decode shown n)
    (hwire : Conveyed (DecodedFrom encode decode) encode
      (outputsOf k (feed operate [] ((shown.filterMap Observation.ofService).filterMap
        Service.Observation.operation)).2)
      ((n.connections k).invocation.dispatched.filterMap Client.Task.update ++
        (messages event).map (List.map decode)) rest)
    (hstep : { n with wire := Function.update n.wire k rest }.stepClient decode k event =
      some n') :
    Conveys encode decode (shown ++ ((n.connections k).observe event).map (.client k)) n' := by
  obtain ⟨connection, hconnection, rfl⟩ := Option.map_eq_some_iff.mp hstep
  have hshown : (shown ++ ((n.connections k).observe event).map
      (Observation.client k)).filterMap Observation.ofService =
        shown.filterMap Observation.ofService := by
    rw [List.filterMap_append, Observation.filterMap_ofService_client, List.append_nil]
  refine ⟨?_, ?_, ?_⟩
  · rw [hshown]
    exact h.service
  · intro j
    rw [List.filterMap_append, Observation.filterMap_ofClient_client]
    by_cases hj : k = j
    · subst hj
      rw [if_pos rfl]
      dsimp only
      rw [Function.update_self]
      exact (h.client k).step hconnection
    · rw [if_neg hj, List.append_nil]
      dsimp only
      rw [Function.update_of_ne (Ne.symm hj)]
      exact h.client j
  · intro j
    rw [hshown]
    by_cases hj : k = j
    · subst hj
      dsimp only
      rw [Function.update_self, Function.update_self,
        dispatched_step (h.client k).waits hconnection]
      exact hwire
    · dsimp only
      rw [Function.update_of_ne (Ne.symm hj), Function.update_of_ne (Ne.symm hj)]
      exact h.conveyed j

theorem Conveys.step {shown : List (Observation ρ ω υ)} {event : Event ρ ω υ τ}
    (h : Conveys encode decode shown n) (halone : n.UpdatesAlone event)
    (hstep : n.step encode decode event = some n') :
    Conveys encode decode (shown ++ n.observe event) n' := by
  cases event with
  | service event => exact h.stepService halone hstep
  | read k targets =>
      simp only [Network.step] at hstep
      split at hstep
      · cases hstep
      · next message rest hwire =>
          have hconveyed := h.conveyed k
          rw [hwire] at hconveyed
          exact h.stepClient (hconveyed.read targets) hstep
  | client k event =>
      simp only [Network.step] at hstep
      split at hstep
      · next hmessages =>
          have hstep : { n with wire := Function.update n.wire k (n.wire k) }.stepClient
              decode k event = some n' := by
            rwa [Function.update_eq_self]
          refine h.stepClient ?_ hstep
          rw [hmessages, List.map_nil, List.append_nil]
          exact h.conveyed k
      · cases hstep

/-! ## Whole runs -/

/-- In every run in which updates arrive while no stream is being written one, a receiver of
a client is handed, once and in order, what is published while it is subscribed; and what
the traffic monitor of the daemon handed out while the stream was subscribed is what is
published, then what the context still has to execute, each decoded from its encoding, and
then what is still on the wire. -/
theorem conveyed_run {events : List (Event ρ ω υ τ)}
    (hmeets : Meets (step encode decode) UpdatesAlone {} events)
    (hrun : run (step encode decode) {} events = some n) (k : ℕ) (receiver : ρ) :
    (observations (step encode decode) observe {} events).filterMap
        (Observation.handedTo k receiver) =
      received receiver false ((observations (step encode decode) observe {} events).filterMap
        (Observation.stream k)) ∧
    Conveyed (DecodedFrom encode decode) encode
      (received k false ((observations (step encode decode) observe {} events).filterMap
        Observation.traffic))
      (((observations (step encode decode) observe {} events).filterMap
        (Observation.stream k)).filterMap Machine.Operation.published ++
          (n.connections k).waiting)
      (n.wire k) := by
  have h := Machine.run_observations (Conveys encode decode)
    (fun _ _ _ _ h halone hstep => h.step halone hstep) (conveys_start encode decode) hmeets
    hrun
  generalize observations (step encode decode) observe {} events = shown at h ⊢
  have hconveyed := h.conveyed k
  rw [Machine.outputsOf_feed_operate List.nodup_nil] at hconveyed
  rw [Observation.filterMap_stream, Observation.filterMap_handedTo,
    Observation.filterMap_traffic, (h.client k).published_append_waiting]
  exact ⟨(h.client k).handed_eq receiver, hconveyed⟩

instance UpdatesAlone.decide (n : Network ρ ω υ τ) :
    ∀ event : Event ρ ω υ τ, Decidable (n.UpdatesAlone event)
  | .service event => inferInstanceAs (Decidable (n.service.UpdatesAlone event))
  | .read _ _ | .client _ _ => inferInstanceAs (Decidable True)

end Network

/-! ## The flights of the daemon -/

namespace Deployment

open Codec.Grpc (TrafficUpdate)

/-- What an update is decoded into, and the times at which its decoding reads the clock. -/
structure Target where
  update : Traffic.Update
  now : DateTime
  later : DateTime

/-- How a client decodes a part of a message. -/
def decode (part : TrafficUpdate × Target) : Traffic.Update :=
  Codec.Grpc.decode part.2.now part.2.later part.1 part.2.update

/-- What can happen to a daemon and the clients of its streams: something to the traffic
monitors of its flights, a step of the executor or of the context of its service, or
something to a client. -/
inductive Event (ρ : Type*) where
  | flight (event : FanOutTrafficMonitor.Event Empty)
  | run
  | next (i : ℕ) (ok : Bool)
  | turn
  | read (k : ℕ) (targets : ℕ → Target)
  | client (k : ℕ) (event : Client.Connection.Event ρ (TrafficUpdate × Target))

/-- What an event is to a service and its clients, where `flightStep` says what the traffic
monitors hand out. -/
def events {σ : Type*}
    (flightStep : σ → FanOutTrafficMonitor.Event Empty → Option (σ ×
      List (Machine.Operation Empty (Rest.Traffic.UpdateType × List Traffic.Update))))
    (s : σ) : Event ρ → Option (σ × List (Network.Event ρ TrafficUpdate Traffic.Update Target))
  | .flight event =>
      (flightStep s event).map fun (next, operations) =>
        (next, (operations.filterMap Machine.Operation.published).map fun update =>
          .service (.update update.2))
  | .run => some (s, [.service .run])
  | .next i ok => some (s, [.service (.next i ok)])
  | .turn => some (s, [.service .turn])
  | .read k targets => some (s, [.read k targets])
  | .client k event => some (s, [.client k event])

variable [DecidableEq ρ]

/-- A step of the daemon and the clients. -/
def step (decoder : Rest.Traffic.Decoder) :
    (ℕ → Option (Rest.Traffic.Monitor Unit)) ×
        Network ρ TrafficUpdate Traffic.Update Target → Event ρ →
      Option ((ℕ → Option (Rest.Traffic.Monitor Unit)) ×
        Network ρ TrafficUpdate Traffic.Update Target) :=
  tryBehind (events (FanOutTrafficMonitor.monitorsStep decoder))
    (Network.step Codec.Grpc.encode decode)

omit [DecidableEq ρ] in
/-- What a service and its clients do, according to the flights that are monitored. -/
def networkEvents (decoder : Rest.Traffic.Decoder) (es : List (Event ρ)) :
    Option (List (Network.Event ρ TrafficUpdate Traffic.Update Target)) :=
  (tryFeed (events (FanOutTrafficMonitor.flightsStep decoder)) (fun _ => none) es).map Prod.snd

omit [DecidableEq ρ] in
/-- The traffic monitors hand out what the topics of their flights bring. -/
theorem events_monitors (decoder : Rest.Traffic.Decoder) (es : List (Event ρ)) :
    (tryFeed (events (FanOutTrafficMonitor.monitorsStep decoder)) (fun _ => none) es).map
      Prod.snd = networkEvents decoder es := by
  have hinit : FanOutTrafficMonitor.Monitors (fun _ => none) (fun _ => none) :=
    fun _ => trivial
  refine Machine.tryFeed_related FanOutTrafficMonitor.Monitors ?_ hinit es
  intro monitors flights event h
  cases event with
  | flight event =>
      have hboth := FanOutTrafficMonitor.monitorsStep_related decoder h event
      simp only [events]
      generalize FanOutTrafficMonitor.monitorsStep decoder monitors event = next at hboth
      generalize FanOutTrafficMonitor.flightsStep decoder flights event = next' at hboth
      cases hboth with
      | none => exact .none
      | some hboth => exact .some ⟨hboth.1, by simp only [hboth.2]⟩
  | run | next | turn | read | client => exact .some ⟨h, rfl⟩

/-- What is shown when these things happen to a service and its clients. -/
def shown (es : List (Network.Event ρ TrafficUpdate Traffic.Update Target)) :
    List (Network.Observation ρ TrafficUpdate Traffic.Update) :=
  observations (Network.step Codec.Grpc.encode decode) Network.observe {} es

/-- What a client makes of an update: what is decoded from its encoding, which is the update
but for the altitude, as long as its times are not before the epoch. -/
structure Received (handed update : Traffic.Update) : Prop where
  decoded : Network.DecodedFrom Codec.Grpc.encode decode handed update
  kept : 0 ≤ update.recorded.microseconds.toInt → 0 ≤ update.timestamp.microseconds.toInt →
    handed = { update with altitude := handed.altitude }

theorem Received.of_decodedFrom {handed update : Traffic.Update}
    (h : Network.DecodedFrom Codec.Grpc.encode decode handed update) :
    Received handed update := by
  refine ⟨h, fun hrecorded htimestamp => ?_⟩
  obtain ⟨target, rfl⟩ := h
  simp only [decode, Codec.Grpc.decode_encode hrecorded htimestamp]

/-- From the topics of the flights to the receivers of a client: a receiver is handed, once
and in order, what is published on its stream while it is subscribed; and what the topics
of the monitored flights brought while the stream was subscribed to the traffic monitor is
what is published, then what the context of the client still has to execute, each received
as `Received` says, and then what is still on the wire. -/
theorem handed_ofTopics {decoder : Rest.Traffic.Decoder} {es : List (Event ρ)}
    {inner : List (Network.Event ρ TrafficUpdate Traffic.Update Target)}
    {monitors : ℕ → Option (Rest.Traffic.Monitor Unit)}
    {n : Network ρ TrafficUpdate Traffic.Update Target}
    (hinner : networkEvents decoder es = some inner)
    (hmeets : Meets (Network.step Codec.Grpc.encode decode) Network.UpdatesAlone {} inner)
    (hrun : run (step decoder) (fun _ => none, {}) es = some (monitors, n))
    (k : ℕ) (receiver : ρ) :
    (shown inner).filterMap (Network.Observation.handedTo k receiver) =
      received receiver false ((shown inner).filterMap (Network.Observation.stream k)) ∧
    Network.Conveyed Received Codec.Grpc.encode
      (received k false ((shown inner).filterMap Network.Observation.traffic))
      (((shown inner).filterMap (Network.Observation.stream k)).filterMap
        Machine.Operation.published ++ (n.connections k).waiting)
      (n.wire k) := by
  have hlast : run (Network.step Codec.Grpc.encode decode) {} inner = some n := by
    rw [step, Machine.run_tryBehind, Option.bind_eq_some_iff] at hrun
    obtain ⟨last, hfeed, hmap⟩ := hrun
    obtain ⟨n', hlast, heq⟩ := Option.map_eq_some_iff.mp hmap
    obtain ⟨-, rfl⟩ := Prod.mk.inj heq
    have hsame := events_monitors decoder es
    rw [hfeed, hinner] at hsame
    exact Option.some.inj hsame ▸ hlast
  obtain ⟨hhanded, hconveyed⟩ := Network.conveyed_run hmeets hlast k receiver
  exact ⟨hhanded, hconveyed.mono fun _ _ => Received.of_decodedFrom⟩

/-- Everything is zero in the variables of a client. -/
def targetOfZeros (_ : ℕ) : Target := ⟨Codec.Json.Traffic.initialUpdate, ⟨0⟩, ⟨0⟩⟩

/-- A flight is monitored and a client connects.  Its receiver gets the first of two
updates, and the second one is still on the wire. -/
def twoUpdatesRun : List (Event String) :=
  [.flight (.monitored 0 "a" 1 2), .run, .client 0 (.proceed (.connected true)),
    .client 0 .execute, .client 0 (.subscribe "receiver"), .next 0 true, .turn,
    .flight (.publish 0 "uav/traffic/sa/a" "1" Rest.Traffic.memoryOfZeros), .next 1 true,
    .turn, .read 0 targetOfZeros, .client 0 .execute,
    .flight (.publish 0 "uav/traffic/alert/a" "0" Rest.Traffic.memoryOfZeros)]

theorem handed_ofTopics_twoUpdatesRun :
    ∃ inner monitors n, networkEvents Rest.Traffic.decoderOfPositions twoUpdatesRun =
        some inner ∧
      run (step Rest.Traffic.decoderOfPositions) (fun _ => none, {}) twoUpdatesRun =
        some (monitors, n) ∧
      (received 0 false ((shown inner).filterMap Network.Observation.traffic)).length = 2 ∧
      ((shown inner).filterMap (Network.Observation.handedTo 0 "receiver")).length = 1 ∧
      Network.Conveyed Received Codec.Grpc.encode
        (received 0 false ((shown inner).filterMap Network.Observation.traffic))
        (((shown inner).filterMap (Network.Observation.stream 0)).filterMap
          Machine.Operation.published ++ (n.connections 0).waiting)
        (n.wire 0) := by
  have hinner : (networkEvents Rest.Traffic.decoderOfPositions twoUpdatesRun).map
      (fun inner => decide
        ((received 0 false ((shown inner).filterMap Network.Observation.traffic)).length = 2 ∧
          ((shown inner).filterMap (Network.Observation.handedTo 0 "receiver")).length = 1 ∧
          Meets (Network.step Codec.Grpc.encode decode) Network.UpdatesAlone {} inner)) =
        some true := by
    decide +kernel
  obtain ⟨inner, heq, hdecide⟩ := Option.map_eq_some_iff.mp hinner
  obtain ⟨hlength, hhanded, hmeets⟩ := of_decide_eq_true hdecide
  obtain ⟨⟨monitors, n⟩, hrun⟩ : ∃ last, run (step Rest.Traffic.decoderOfPositions)
      (fun _ => none, {}) twoUpdatesRun = some last :=
    Option.isSome_iff_exists.mp (by decide +kernel)
  exact ⟨inner, monitors, n, heq, hrun, hlength, hhanded,
    (handed_ofTopics heq hmeets hrun 0 "receiver").2⟩

end Deployment
end Airmap.Monitor.Grpc
