import PlatformSdk.Mavlink.Channel
import PlatformSdk.Monitor.Daemon.Telemetry

/-!
# A daemon on its channel

`Daemon::start` subscribes the daemon to its channel and starts the channel, whose
`handle_read` starts the next read.  The module shows that a daemon depends on the bytes
of its vehicles and not on the reads that they came in, and follows its telemetry back to
these bytes.
-/

namespace Airmap.Monitor

open Machine
open Mavlink (Channel Framer Message Vehicle)

/-- What a daemon subscribes to its channel, in `finalize` and in `start`. -/
inductive Daemon.Subscriber where
  | logging
  | handleMavlinkMessage
  deriving DecidableEq

/-- A daemon that was started, its channel, and the reads of the channel that did not
complete yet. -/
structure StartedDaemon (β ο : Type*) where
  daemon : Daemon
  channel : Channel Daemon.Subscriber β ο
  reads : ℕ := 0

namespace StartedDaemon

variable {β ο : Type*}

/-- The channel of a daemon, once it was started. -/
def startedChannel (parseBuffer : β) (parseOut : ο) : Channel Daemon.Subscriber β ο :=
  let channel : Channel Daemon.Subscriber β ο :=
    { parseBuffer := parseBuffer, parseOut := parseOut }
  let (channel, _) := channel.subscribe .logging
  let (channel, _) := channel.subscribe .handleMavlinkMessage
  channel.start

/-- `Daemon::create` and `Daemon::start`, with a channel that was just made. -/
def start (parseBuffer : β) (parseOut : ο) (credentials : Credentials) (aircraftId : String) :
    StartedDaemon β ο where
  daemon := .create credentials aircraftId
  channel := startedChannel parseBuffer parseOut
  reads := 1

/-- What a subscriber does with a message. -/
def call (_ : Channel.Subscription) : Daemon.Subscriber → Message → List Daemon.Event
  | .logging, _ => []
  | .handleMavlinkMessage, incoming => [.message incoming]

/-- `handle_read` of a channel, for the bytes of a read without an error. -/
def handleRead (framer : Framer β ο) (transferred : List UInt8) (s : StartedDaemon β ο) :
    Option (StartedDaemon β ο) :=
  let (channel, calls) := s.channel.handleRead framer call transferred
  (run Daemon.step s.daemon calls).map fun daemon =>
    { daemon := daemon, channel := channel, reads := s.reads + 1 }

/-- A read completes with some bytes or with an error, or an answer comes in for the
submitter with the given number. -/
inductive Event where
  | read (transferred : List UInt8)
  | readFailed
  | answer (number i : ℕ) (reply : Reply)

def step (framer : Framer β ο) (s : StartedDaemon β ο) : Event → Option (StartedDaemon β ο)
  | .read transferred =>
      if 0 < s.reads then
        { s with reads := s.reads - 1 }.handleRead framer transferred
      else none
  | .readFailed => if 0 < s.reads then some { s with reads := s.reads - 1 } else none
  | .answer number i reply =>
      (s.daemon.step (.answer number i reply)).map fun daemon => { s with daemon := daemon }

/-! ## Bytes and answers -/

/-- What reaches a daemon: a byte, or an answer. -/
inductive Arrival where
  | byte (value : UInt8)
  | answer (number i : ℕ) (reply : Reply)

def Event.arrivals : Event → List Arrival
  | .read transferred => transferred.map .byte
  | .readFailed => []
  | .answer number i reply => [.answer number i reply]

/-- What an arrival does to the channel, and the events of the daemon that it brings. -/
def takeArrival (framer : Framer β ο) (c : Channel Daemon.Subscriber β ο) :
    Arrival → Channel Daemon.Subscriber β ο × List Daemon.Event
  | .byte value =>
      ((c.takeByte framer value).1, (c.takeByte framer value).2.map .message)
  | .answer number i reply => (c, [.answer number i reply])

theorem feed_takeArrival_bytes (framer : Framer β ο) (c : Channel Daemon.Subscriber β ο)
    (bytes : List UInt8) :
    feed (takeArrival framer) c (bytes.map .byte) =
      ((feed (Channel.takeByte framer) c bytes).1,
        (feed (Channel.takeByte framer) c bytes).2.map .message) := by
  induction bytes generalizing c with
  | nil => rfl
  | cons byte bytes ih =>
      rw [List.map_cons, feed_cons, takeArrival, ih, feed_cons, List.map_append]

/-- The bytes that arrive. -/
def Arrival.transferred : Arrival → Option UInt8
  | .byte value => some value
  | .answer _ _ _ => none

/-- The message that an event of a daemon brings. -/
def messageOf : Daemon.Event → Option Message
  | .message incoming => some incoming
  | .answer _ _ _ => none

/-- The answers do not change what is framed. -/
theorem feed_takeArrival_messages (framer : Framer β ο) (c : Channel Daemon.Subscriber β ο)
    (arrivals : List Arrival) :
    (feed (takeArrival framer) c arrivals).2.filterMap messageOf =
      (feed (Channel.takeByte framer) c (arrivals.filterMap Arrival.transferred)).2 := by
  induction arrivals generalizing c with
  | nil => rfl
  | cons arrival arrivals ih =>
      rw [feed_cons, List.filterMap_append, ih]
      cases arrival with
      | byte value =>
          have hvalue : (Arrival.byte value).transferred = some value := rfl
          rw [List.filterMap_cons_some hvalue, feed_cons, takeArrival, List.filterMap_map]
          congr 1
          exact List.filterMap_some
      | answer number i reply =>
          have hnone : (Arrival.answer number i reply).transferred = none := rfl
          rw [List.filterMap_cons_none hnone]
          rfl

/-! ## What one step does -/

variable {framer : Framer β ο} {s s' : StartedDaemon β ο}

/-- The channel calls the two subscribers of the daemon. -/
def IsSubscribed (c : Channel Daemon.Subscriber β ο) : Prop :=
  c.subscribers.entries = [(0, .logging), (1, .handleMavlinkMessage)]

theorem isSubscribed_startedChannel (parseBuffer : β) (parseOut : ο) :
    IsSubscribed (startedChannel parseBuffer parseOut) := rfl

theorem invokeSubscribers_call {c : Channel Daemon.Subscriber β ο} (h : IsSubscribed c)
    (messages : List Message) :
    c.invokeSubscribers call messages = messages.map .message := by
  simp only [Channel.invokeSubscribers, show c.subscribers.entries = _ from h]
  rw [List.map_eq_flatMap]
  rfl

/-- What a daemon and its channel take from an arrival. -/
abbrev arrive (framer : Framer β ο) :
    Channel Daemon.Subscriber β ο × Daemon → Arrival →
      Option (Channel Daemon.Subscriber β ο × Daemon) :=
  behind (takeArrival framer) Daemon.step

/-- A step is a run over what arrives in it. -/
theorem step_arrivals (h : IsSubscribed s.channel) {event : Event}
    (hstep : s.step framer event = some s') :
    IsSubscribed s'.channel ∧
      run (arrive framer) (s.channel, s.daemon) event.arrivals =
        some (s'.channel, s'.daemon) := by
  rcases event with transferred | - | ⟨number, i, reply⟩
  · simp only [step] at hstep
    split at hstep
    · simp only [handleRead, Channel.handleRead_eq, invokeSubscribers_call h,
        Option.map_eq_some_iff] at hstep
      obtain ⟨daemon, hrun, rfl⟩ := hstep
      refine ⟨?_, ?_⟩
      · have hsame := Channel.feed_takeByte_subscribers framer s.channel transferred
        rw [IsSubscribed, hsame]
        exact h
      · rw [Event.arrivals, run_behind, feed_takeArrival_bytes, hrun, Option.map_some]
    · cases hstep
  · simp only [step] at hstep
    split at hstep
    · cases hstep
      exact ⟨h, rfl⟩
    · cases hstep
  · obtain ⟨daemon, hdaemon, rfl⟩ := Option.map_eq_some_iff.mp hstep
    refine ⟨h, ?_⟩
    rw [Event.arrivals, run_behind, feed_cons, takeArrival, feed_nil, List.append_nil,
      run_cons_of_eq hdaemon, run_nil, Option.map_some]

/-- The event is a read that fails. -/
def Event.fails : Event → Bool
  | .readFailed => true
  | .read _ | .answer _ _ _ => false

theorem reads_step {event : Event} (hstep : s.step framer event = some s') :
    s.reads = s'.reads + if event.fails then 1 else 0 := by
  rcases event with transferred | - | ⟨number, i, reply⟩
  · simp only [step] at hstep
    split at hstep
    · next hreads =>
        obtain ⟨daemon, -, rfl⟩ := Option.map_eq_some_iff.mp hstep
        exact (Nat.sub_add_cancel hreads).symm
    · cases hstep
  · simp only [step] at hstep
    split at hstep
    · next hreads =>
        cases hstep
        exact (Nat.sub_add_cancel hreads).symm
    · cases hstep
  · obtain ⟨daemon, -, rfl⟩ := Option.map_eq_some_iff.mp hstep
    rfl

/-- While a read is outstanding an event that is no failure is what arrives in it. -/
theorem step_eq (h : IsSubscribed s.channel) (hreads : 0 < s.reads) {event : Event}
    (hfails : event.fails = false) :
    s.step framer event =
      (run (arrive framer) (s.channel, s.daemon) event.arrivals).map fun next =>
        { daemon := next.2, channel := next.1, reads := s.reads } := by
  rcases event with transferred | - | ⟨number, i, reply⟩
  · simp only [step, if_pos hreads, handleRead, Channel.handleRead_eq,
      invokeSubscribers_call h, Nat.sub_add_cancel hreads]
    rw [Event.arrivals, run_behind, feed_takeArrival_bytes, Option.map_map]
    rfl
  · cases hfails
  · rw [Event.arrivals, run_behind, feed_cons, takeArrival, feed_nil, List.append_nil,
      Option.map_map]
    simp only [step, run]
    cases s.daemon.step (.answer number i reply) with
    | none => rfl
    | some daemon => rfl

/-! ## Whole runs -/

/-- As long as no read fails, a run is one over what arrives. -/
theorem run_eq (h : IsSubscribed s.channel) (hreads : 0 < s.reads) {events : List Event}
    (hfails : ∀ event ∈ events, event.fails = false) :
    run (step framer) s events =
      (run (arrive framer) (s.channel, s.daemon) (events.flatMap Event.arrivals)).map
        fun next => { daemon := next.2, channel := next.1, reads := s.reads } := by
  induction events generalizing s with
  | nil => rfl
  | cons event events ih =>
      have hstep : s.step framer event = _ := step_eq h hreads (hfails event (by simp))
      rw [List.flatMap_cons]
      cases hnext : run (arrive framer) (s.channel, s.daemon) event.arrivals with
      | none =>
          rw [hnext, Option.map_none] at hstep
          rw [run_append_none hnext, Option.map_none]
          simp only [run, hstep]
      | some next =>
          rw [hnext, Option.map_some] at hstep
          obtain ⟨hsubscribed, -⟩ := step_arrivals h hstep
          rw [run_append hnext, run_cons_of_eq hstep]
          exact ih hsubscribed hreads fun event' hmem => hfails event' (by simp [hmem])

variable {parseBuffer : β} {parseOut : ο} {credentials : Credentials} {aircraftId : String}
  {events events' : List Event}

/-- A run is one over what arrives, also where a read fails. -/
theorem run_arrivals
    (hrun : run (step framer) (start parseBuffer parseOut credentials aircraftId) events =
      some s) :
    IsSubscribed s.channel ∧
      run (arrive framer)
        (startedChannel parseBuffer parseOut, .create credentials aircraftId)
        (events.flatMap Event.arrivals) = some (s.channel, s.daemon) :=
  run_simulates (fun s => IsSubscribed s.channel) (fun s => (s.channel, s.daemon))
    Event.arrivals (fun _ _ _ h hstep => step_arrivals h hstep)
    (isSubscribed_startedChannel parseBuffer parseOut) hrun

/-- The events of the daemon in a run. -/
def daemonEvents (framer : Framer β ο) (parseBuffer : β) (parseOut : ο)
    (events : List Event) : List Daemon.Event :=
  (feed (takeArrival framer) (startedChannel parseBuffer parseOut)
    (events.flatMap Event.arrivals)).2

theorem run_daemonEvents
    (hrun : run (step framer) (start parseBuffer parseOut credentials aircraftId) events =
      some s) :
    run Daemon.step (.create credentials aircraftId)
      (daemonEvents framer parseBuffer parseOut events) = some s.daemon := by
  have harrivals := (run_arrivals hrun).2
  rw [run_behind, Option.map_eq_some_iff] at harrivals
  obtain ⟨daemon, hdaemon, heq⟩ := harrivals
  obtain ⟨-, rfl⟩ := Prod.mk.inj heq
  exact hdaemon

/-- Whatever bytes and answers come, one read is outstanding until a read fails and none
afterwards, and the next read can bring any bytes without an assertion to fail. -/
theorem reads_untilFailure
    (hrun : run (step framer) (start parseBuffer parseOut credentials aircraftId) events =
      some s) :
    s.reads + events.countP Event.fails = 1 ∧
      (0 < s.reads → ∀ transferred, ∃ s', s.step framer (.read transferred) = some s') := by
  refine ⟨?_, ?_⟩
  · refine run_history (fun events s => s.reads + events.countP Event.fails = 1) rfl ?_ hrun
    intro es mid event last h hstep
    have hreads := reads_step hstep
    rw [List.countP_append, List.countP_singleton]
    omega
  · intro hreads transferred
    have hsubscribed := (run_arrivals hrun).1
    obtain ⟨daemon, hdaemon⟩ := (Daemon.composed_run (run_daemonEvents hrun)).exists_run_messages
      (feed (Channel.takeByte framer) s.channel transferred).2
    refine ⟨{ daemon := daemon
              channel := (feed (Channel.takeByte framer) s.channel transferred).1
              reads := s.reads }, ?_⟩
    rw [step_eq hsubscribed hreads rfl, Event.arrivals, run_behind, feed_takeArrival_bytes,
      hdaemon, Option.map_some, Option.map_some]

/-- As long as no read fails, runs over the same bytes and answers, in the same order,
do the same: how the bytes are cut into reads makes no difference. -/
theorem run_eq_of_arrivals_eq (hfails : ∀ event ∈ events, event.fails = false)
    (hfails' : ∀ event ∈ events', event.fails = false)
    (harrivals : events.flatMap Event.arrivals = events'.flatMap Event.arrivals) :
    run (step framer) (start parseBuffer parseOut credentials aircraftId) events =
      run (step framer) (start parseBuffer parseOut credentials aircraftId) events' := by
  have hsubscribed := isSubscribed_startedChannel parseBuffer parseOut
  have hreads : 0 < (start parseBuffer parseOut credentials aircraftId).reads := Nat.one_pos
  rw [run_eq hsubscribed hreads hfails, run_eq hsubscribed hreads hfails', harrivals]

/-- The bytes that an event reads. -/
def Event.transferred : Event → List UInt8
  | .read transferred => transferred
  | .readFailed | .answer _ _ _ => []

/-- The reply that an event brings to the submitter with the given number. -/
def Event.replyTo (number : ℕ) : Event → Option Reply
  | .read _ | .readFailed => none
  | .answer number' _ reply => if number' = number then some reply else none

theorem filterMap_transferred (events : List Event) :
    (events.flatMap Event.arrivals).filterMap Arrival.transferred =
      events.flatMap Event.transferred := by
  rw [List.filterMap_flatMap]
  congr 1
  funext event
  cases event with
  | read transferred =>
      rw [Event.arrivals, List.filterMap_map]
      exact List.filterMap_some
  | readFailed => rfl
  | answer number i reply => rfl

theorem daemonEvents_messages (framer : Framer β ο) (parseBuffer : β) (parseOut : ο)
    (events : List Event) :
    (daemonEvents framer parseBuffer parseOut events).filterMap messageOf =
      Channel.messages ((startedChannel parseBuffer parseOut).processMavlinkData framer
        (events.flatMap Event.transferred)).2 := by
  rw [daemonEvents, feed_takeArrival_messages, filterMap_transferred,
    Channel.processMavlinkData_eq_feed, Channel.messages_extend_none]

/-- The position that a message reports for a vehicle. -/
def positionOf (systemId : UInt8) (message : Message) : Option Mavlink.GlobalPositionInt :=
  if message.sysid = systemId then message.position else none

theorem filterMap_messageOf_position (systemId : UInt8) (events : List Daemon.Event) :
    (events.filterMap messageOf).filterMap (positionOf systemId) =
      events.filterMap (Daemon.Event.positionOf systemId) := by
  rw [List.filterMap_filterMap]
  congr 1
  funext event
  cases event with
  | message incoming => rfl
  | answer number i reply => rfl

theorem feed_takeArrival_replies (framer : Framer β ο) (number : ℕ)
    (c : Channel Daemon.Subscriber β ο) (event : Event) :
    (feed (takeArrival framer) c event.arrivals).2.filterMap
        (Daemon.Event.replyTo number) =
      [event].filterMap (Event.replyTo number) := by
  cases event with
  | read transferred =>
      rw [Event.arrivals, feed_takeArrival_bytes, List.filterMap_map]
      exact List.filterMap_eq_nil_iff.mpr fun _ _ => rfl
  | readFailed => rfl
  | answer number' i reply => rfl

theorem daemonEvents_replies (number : ℕ) :
    (daemonEvents framer parseBuffer parseOut events).filterMap
        (Daemon.Event.replyTo number) =
      events.filterMap (Event.replyTo number) := by
  rw [daemonEvents]
  generalize startedChannel parseBuffer parseOut = c
  induction events generalizing c with
  | nil => rfl
  | cons event events ih =>
      rw [List.flatMap_cons, feed_append, List.filterMap_append, ih,
        feed_takeArrival_replies, ← List.filterMap_append, List.singleton_append]

/-- In every run of a started daemon the positions that the submitter of a vehicle has
sent are among those that the bytes from the channel report for this vehicle, taken as one
stream: they were sent in the order of the stream, and each of them at most once.  Each was
sent for a flight and with a key that replies to this submitter brought. -/
theorem telemetry_ofStream
    (hrun : run (step framer) (start parseBuffer parseOut credentials aircraftId) events =
      some s)
    {systemId : UInt8} {vehicle : Vehicle} {number : ℕ} {submitter : TelemetrySubmitter}
    (hvehicle : s.daemon.vehicleTracker.vehicles systemId = some ⟨vehicle, [number]⟩)
    (hsubmitter : s.daemon.submitters[number]? = some submitter) :
    (submitter.client.history.filterMap TelemetrySubmitter.Entry.position).reverse.Sublist
        ((Channel.messages ((startedChannel parseBuffer parseOut).processMavlinkData framer
          (events.flatMap Event.transferred)).2).filterMap (positionOf systemId)) ∧
      ∀ flight key position, .submittedUpdates flight key position ∈
          submitter.client.history →
        (∃ reply ∈ events.filterMap (Event.replyTo number),
          TelemetrySubmitter.BringsFlight reply flight) ∧
        .key key ∈ events.filterMap (Event.replyTo number) := by
  have hcomes := Daemon.comesFrom_submitter (run_daemonEvents hrun) hvehicle hsubmitter
  rw [daemonEvents_replies, ← filterMap_messageOf_position, daemonEvents_messages] at hcomes
  exact ⟨hcomes.inOrder, hcomes.sent⟩

/-! ## Positions and a heartbeat -/

/-- `_MAV_RETURN_int32_t`, on the bytes of a frame. -/
def int32 (frame : List UInt8) (i : ℕ) : Int32 :=
  .ofNat ((frame.getD i 0).toNat + 256 * (frame.getD (i + 1) 0).toNat +
    65536 * (frame.getD (i + 2) 0).toNat + 16777216 * (frame.getD (i + 3) 0).toNat)

/-- The payload of a frame, which follows the number of the message.  Heartbeats and
positions are the only messages that are decoded. -/
def payload (frame : List UInt8) : Mavlink.Payload :=
  if frame.getD 5 0 = 0 then .heartbeat (frame.getD 13 0)
  else if frame.getD 5 0 = 33 then
    .globalPositionInt ⟨int32 frame 10, int32 frame 14, int32 frame 18, int32 frame 22⟩
  else .other

/-- `mavlink_frame_char_buffer` on frames of version 1 whose checksum is right: the buffer
holds the frame as far as it came. -/
def frames : Framer (List UInt8) Message where
  frameCharBuffer frame out byte :=
    if frame = [] ∧ byte ≠ 0xFE then (.incomplete, [], out)
    else
      let frame := frame ++ [byte]
      if 2 ≤ frame.length ∧ frame.length = (frame.getD 1 0).toNat + 8 then
        (.ok, [], ⟨frame.getD 3 0, payload frame⟩)
      else (.incomplete, frame, out)
  msg := id

/-- A heartbeat of an active system, with its checksum. -/
def heartbeatFrame : List UInt8 :=
  [0xFE, 9, 0, 1, 1, 0, 0, 0, 0, 0, 2, 3, 0, 4, 3, 208, 20]

/-- A position of the same system, with its checksum. -/
def positionFrame : List UInt8 :=
  [0xFE, 28, 1, 1, 1, 33, 0, 0, 0, 0, 128, 150, 152, 0, 0, 45, 49, 1, 0, 0, 0, 0, 0, 0, 0, 0,
    0, 0, 0, 0, 0, 0, 0, 0, 70, 150]

def heartbeatRun : List Event :=
  [.read (heartbeatFrame.take 5), .read (heartbeatFrame.drop 5),
    .answer 0 0 (.authorization "token"), .readFailed]

theorem run_eq_of_arrivals_eq_heartbeat :
    run (step frames) (start [] ⟨0, .other⟩ {} "aircraft")
        [.read (heartbeatFrame.take 5), .read (heartbeatFrame.drop 5)] =
      run (step frames) (start [] ⟨0, .other⟩ {} "aircraft") [.read heartbeatFrame] :=
  run_eq_of_arrivals_eq (by decide) (by decide) rfl

theorem reads_untilFailure_heartbeat :
    ∃ s, run (step frames) (start [] ⟨0, .other⟩ {} "aircraft") heartbeatRun = some s ∧
      s.reads + heartbeatRun.countP Event.fails = 1 := by
  obtain ⟨s, hrun⟩ : ∃ s, run (step frames) (start [] ⟨0, .other⟩ {} "aircraft")
      heartbeatRun = some s :=
    Option.isSome_iff_exists.mp (by decide)
  exact ⟨s, hrun, (reads_untilFailure hrun).1⟩

/-- A position and a heartbeat share a read, and a second position comes once there is a key
for the flight. -/
def telemetryRun : List Event :=
  [.read (positionFrame ++ heartbeatFrame.take 5), .read (heartbeatFrame.drop 5),
    .answer 0 0 (.authorization "token"), .answer 0 0 (.pilot "pilot"),
    .answer 0 0 (.flights []), .answer 0 0 (.flight { id := "flight" }),
    .answer 0 1 (.key "key"), .read positionFrame]

theorem telemetry_ofStream_heartbeat :
    ∃ s vehicle submitter,
      run (step frames) (start [] ⟨0, .other⟩ {} "aircraft") telemetryRun = some s ∧
      s.daemon.vehicleTracker.vehicles 1 = some ⟨vehicle, [0]⟩ ∧
      s.daemon.submitters[0]? = some submitter ∧
      (submitter.client.history.filterMap TelemetrySubmitter.Entry.position).length = 1 ∧
      (submitter.client.history.filterMap TelemetrySubmitter.Entry.position).reverse.Sublist
        ((Channel.messages ((startedChannel [] ⟨0, .other⟩).processMavlinkData frames
          (telemetryRun.flatMap Event.transferred)).2).filterMap (positionOf 1)) ∧
      ∀ flight key position, .submittedUpdates flight key position ∈
          submitter.client.history →
        (∃ reply ∈ telemetryRun.filterMap (Event.replyTo 0),
          TelemetrySubmitter.BringsFlight reply flight) ∧
        .key key ∈ telemetryRun.filterMap (Event.replyTo 0) := by
  have hdecide : (run (step frames) (start [] ⟨0, .other⟩ {} "aircraft") telemetryRun).map
      (fun s => decide ((s.daemon.vehicleTracker.vehicles 1).map
          Mavlink.TrackedVehicle.monitors = some [0] ∧
        ∃ submitter ∈ s.daemon.submitters[0]?,
          (submitter.client.history.filterMap
            TelemetrySubmitter.Entry.position).length = 1)) = some true := by
    decide
  obtain ⟨s, hrun, hmonitors, submitter, hsubmitter, hlength⟩ := exists_run hdecide
  obtain ⟨⟨vehicle, monitors⟩, hvehicle, rfl⟩ := Option.map_eq_some_iff.mp hmonitors
  exact ⟨s, vehicle, submitter, hrun, hvehicle, hsubmitter, hlength,
    telemetry_ofStream hrun hvehicle hsubmitter⟩

end StartedDaemon
end Airmap.Monitor
