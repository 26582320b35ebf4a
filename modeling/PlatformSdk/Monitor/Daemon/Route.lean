import PlatformSdk.Mavlink.Boost.TcpRoute.Broadcast
import PlatformSdk.Monitor.Daemon.Channel

/-!
# A daemon at the end of a TCP route

The channel of a daemon may be connected to a session of a TCP route, which writes the
encodings of messages.  Where framing undoes the encoding, the daemon does what it would do
if it was handed the messages themselves: how the route cuts them into writes and the
channel into reads is not seen.
-/

namespace Airmap.Monitor.StartedDaemon

open Machine
open Mavlink (Channel Framer Message)
open Mavlink.Boost (TcpRoute)

variable {β ο μ : Type*}

/-! ## Framing what was encoded -/

/-- What a byte does to a parse buffer and a parse result, and the message that it
completes. -/
def frame (framer : Framer β ο) (state : β × ο) (byte : UInt8) : (β × ο) × List Message :=
  let (rc, parseBuffer, parseOut) := framer.frameCharBuffer state.1 state.2 byte
  ((parseBuffer, parseOut), if rc = .ok then [framer.msg parseOut] else [])

/-- Between two frames, the encoding of a message completes this message with its last
byte, and what follows is between two frames again. -/
structure Frames (framer : Framer β ο) (toSendBuffer : μ → List UInt8)
    (decoded : μ → Message) (Between : β × ο → Prop) : Prop where
  between : ∀ state message, Between state →
    Between (feed (frame framer) state (toSendBuffer message)).1
  whole : ∀ state message, Between state →
    (feed (frame framer) state (toSendBuffer message)).2 = [decoded message]
  part : ∀ state message bytes, Between state → bytes <+: toSendBuffer message →
    bytes ≠ toSendBuffer message → (feed (frame framer) state bytes).2 = []

variable {framer : Framer β ο} {toSendBuffer : μ → List UInt8} {decoded : μ → Message}
  {Between : β × ο → Prop}

/-- A part of a stream is framed as a part of its messages. -/
theorem Frames.feed_isPrefix (h : Frames framer toSendBuffer decoded Between)
    {messages : List μ} {state : β × ο} {bytes : List UInt8} (hstate : Between state)
    (hbytes : bytes <+: messages.flatMap toSendBuffer) :
    (feed (frame framer) state bytes).2 <+: messages.map decoded := by
  induction messages generalizing state bytes with
  | nil =>
      rw [List.flatMap_nil, List.prefix_nil] at hbytes
      rw [hbytes]
      exact List.nil_prefix
  | cons message messages ih =>
      rw [List.flatMap_cons] at hbytes
      have hfirst : toSendBuffer message <+:
          toSendBuffer message ++ messages.flatMap toSendBuffer := List.prefix_append _ _
      rcases Nat.lt_or_ge bytes.length (toSendBuffer message).length with hshort | hlong
      · have hpart := List.prefix_of_prefix_length_le hbytes hfirst (Nat.le_of_lt hshort)
        rw [h.part state message bytes hstate hpart fun heq => by simp [heq] at hshort]
        exact List.nil_prefix
      · obtain ⟨rest, rfl⟩ := List.prefix_of_prefix_length_le hfirst hbytes hlong
        have hrest := ih (h.between state message hstate)
          ((List.prefix_append_right_inj _).mp hbytes)
        rw [feed_append, h.whole state message hstate, List.map_cons]
        exact (List.prefix_append_right_inj [decoded message]).mpr hrest

/-- A channel frames as its parse buffer and its parse result do. -/
theorem feed_takeByte_messages (c : Channel Daemon.Subscriber β ο) (bytes : List UInt8) :
    (feed (Channel.takeByte framer) c bytes).2 =
      (feed (frame framer) (c.parseBuffer, c.parseOut) bytes).2 := by
  refine (feed_related (fun c state => (c.parseBuffer, c.parseOut) = state) ?_ rfl bytes).2
  rintro c _ byte rfl
  simp only [Channel.takeByte, Channel.processByte, frame]
  split
  · next hrc => simp [hrc, Channel.messages]
  · next hrc => simp [hrc, Channel.messages]
  · next hrc => simp [hrc, Channel.messages]
  · next hrc => simp [hrc, Channel.messages]

/-! ## What a session writes -/

/-- The bytes that a session handed over are the beginning of the encodings of what it was
given. -/
theorem handed_isPrefix {r : TcpRoute μ} {session : TcpRoute.Session} {given : List μ}
    (hinOrder : session.InOrder)
    (hgiven : session.processed.map TcpRoute.Buffer.encoded ++
        r.pending.map (TcpRoute.Session.encode toSendBuffer) =
      given.map (TcpRoute.Session.encode toSendBuffer)) :
    session.handed.flatMap (fun eb => eb.encoded.data) <+: given.flatMap toSendBuffer := by
  have hdata : given.flatMap toSendBuffer =
      (given.map (TcpRoute.Session.encode toSendBuffer)).flatMap TcpRoute.EncodedBuffer.data := by
    rw [List.flatMap_map]
    rfl
  rw [hdata, ← hgiven, ← show _ = session.processed from hinOrder.ledger]
  simp only [List.map_append, List.flatMap_append, List.flatMap_map, List.append_assoc]
  exact List.prefix_append _ _

variable {parseBuffer : β} {parseOut : ο} {credentials : Credentials} {aircraftId : String}
  {events : List Event} {s : StartedDaemon β ο} {routeEvents : List (TcpRoute.Event μ)}
  {r : TcpRoute μ}

/-- In every run of a daemon that reads what a session of a route writes, the daemon does
what it would do if it was handed messages: the first ones of those that the session was
given, which are what it was greeted with and what the route was given from some point
before the session was accepted on.  They and the replies are all that it does depend on. -/
theorem run_ofRoute
    (hframes : Frames framer toSendBuffer decoded Between)
    (hbetween : Between (parseBuffer, parseOut))
    (hmeets : Meets (TcpRoute.step toSendBuffer) TcpRoute.ReachesAll .create routeEvents)
    (hroute : run (TcpRoute.step toSendBuffer) .create routeEvents = some r)
    {number : ℕ} (hnumber : number ∈ r.order)
    (hrun : run (step framer) (start parseBuffer parseOut credentials aircraftId) events =
      some s)
    (hbytes : ∀ session, r.sessions[number]? = some session →
      events.flatMap Event.transferred <+:
        session.handed.flatMap fun eb => eb.encoded.data) :
    ∃ before after greetings asked place start handled,
      routeEvents = before ++ .accepted false greetings asked place :: after ∧
        number = before.countP TcpRoute.Event.connects ∧
        start ≤ (before.filterMap TcpRoute.Event.message).length ∧
        run Daemon.step (.create credentials aircraftId) handled = some s.daemon ∧
        handled.filterMap messageOf <+: (greetings ++
          (routeEvents.filterMap TcpRoute.Event.message).drop start).map decoded ∧
        ∀ submitter, handled.filterMap (Daemon.Event.replyTo submitter) =
          events.filterMap (Event.replyTo submitter) := by
  obtain ⟨session, hsession, before, after, greetings, asked, place, start, hsplit, hcount,
    hstart, hgiven⟩ := (TcpRoute.complete_run hmeets hroute).given number hnumber
  have hinOrder := (TcpRoute.wellFormed_run hroute).inOrder number session hsession
  refine ⟨before, after, greetings, asked, place, start,
    daemonEvents framer parseBuffer parseOut events, hsplit, hcount, hstart,
    run_daemonEvents hrun, ?_, fun _ => daemonEvents_replies _⟩
  rw [daemonEvents, feed_takeArrival_messages, filterMap_transferred, feed_takeByte_messages]
  exact hframes.feed_isPrefix hbetween
    ((hbytes session hsession).trans (handed_isPrefix hinOrder hgiven))

/-! ## A greeting and a message -/

/-- What the route writes, a heartbeat or a position. -/
inductive Sent where
  | heartbeat
  | position

/-- The encoding of what is written. -/
def Sent.frame : Sent → List UInt8
  | .heartbeat => heartbeatFrame
  | .position => positionFrame

/-- The message that is written. -/
def Sent.message : Sent → Message
  | .heartbeat => ⟨1, .heartbeat 4⟩
  | .position => ⟨1, .globalPositionInt ⟨10000000, 20000000, 0, 0⟩⟩

/-- The parse result before a byte makes no difference. -/
theorem frame_frames {state state' : List UInt8 × Message} (h : state.1 = state'.1)
    (byte : UInt8) :
    (frame frames state byte).1.1 = (frame frames state' byte).1.1 ∧
      (frame frames state byte).2 = (frame frames state' byte).2 := by
  simp only [frame, frames, h]
  split_ifs <;> simp_all

theorem feed_frames {state : List UInt8 × Message} (h : state.1 = []) (bytes : List UInt8) :
    (feed (frame frames) state bytes).1.1 = (feed (frame frames) ([], ⟨0, .other⟩) bytes).1.1 ∧
      (feed (frame frames) state bytes).2 =
        (feed (frame frames) ([], ⟨0, .other⟩) bytes).2 :=
  feed_related (fun state state' : List UInt8 × Message => state.1 = state'.1)
    (fun _ _ byte h => frame_frames h byte) h bytes

/-- No part of a frame completes a message. -/
theorem feed_frames_take (sent : Sent) : ∀ n < sent.frame.length,
    (feed (frame frames) ([], ⟨0, .other⟩) (sent.frame.take n)).2 = [] := by
  cases sent with
  | heartbeat => decide
  | position => decide

theorem frames_sent :
    Frames frames Sent.frame Sent.message fun state => state.1 = [] where
  between state sent h := by
    rw [(feed_frames h sent.frame).1]
    cases sent with
    | heartbeat => decide
    | position => decide
  whole state sent h := by
    rw [(feed_frames h sent.frame).2]
    cases sent with
    | heartbeat => decide
    | position => decide
  part state sent bytes h hprefix hne := by
    have hshort : bytes.length < sent.frame.length := by
      refine Nat.lt_of_le_of_ne hprefix.length_le fun heq => hne ?_
      exact hprefix.eq_of_length heq
    rw [(feed_frames h bytes).2, List.prefix_iff_eq_take.mp hprefix]
    exact feed_frames_take sent bytes.length hshort

/-- A session is greeted with a heartbeat, and the route is given a position. -/
def greetedRun : List (TcpRoute.Event Sent) :=
  [.accepted false [.heartbeat] 2 0, .process .position, .turn 0, .turn 1,
    .written 0 0 false, .turn 0]

/-- The channel does not cut the two frames where the route did. -/
def greetedReads : List Event :=
  [.read (heartbeatFrame.take 5), .read (heartbeatFrame.drop 5 ++ positionFrame.take 20),
    .answer 0 0 (.authorization "token"), .read (positionFrame.drop 20)]

theorem run_ofRoute_heartbeat :
    ∃ (r : TcpRoute Sent) (s : StartedDaemon (List UInt8) Message)
        (handled : List Daemon.Event),
      run (TcpRoute.step Sent.frame) .create greetedRun = some r ∧
        run (step frames) (start [] ⟨0, .other⟩ {} "aircraft") greetedReads = some s ∧
        run Daemon.step (.create {} "aircraft") handled = some s.daemon ∧
        handled.filterMap messageOf <+: [Sent.heartbeat.message, Sent.position.message] ∧
        handled.filterMap (Daemon.Event.replyTo 0) = [.authorization "token"] := by
  have hdecide : (run (TcpRoute.step Sent.frame) .create greetedRun).map
      (fun r => decide (r.order = [0] ∧ ∀ session ∈ r.sessions[0]?,
        session.handed.flatMap (fun eb => eb.encoded.data) =
          heartbeatFrame ++ positionFrame)) = some true := by
    decide
  obtain ⟨r, hroute, horder, hhanded⟩ := exists_run hdecide
  obtain ⟨s, hrun⟩ : ∃ s, run (step frames) (start [] ⟨0, .other⟩ {} "aircraft")
      greetedReads = some s :=
    Option.isSome_iff_exists.mp (by decide)
  have hbytes : ∀ session, r.sessions[0]? = some session →
      greetedReads.flatMap Event.transferred <+:
        session.handed.flatMap fun eb => eb.encoded.data := by
    intro session hsession
    rw [hhanded session hsession]
    exact List.prefix_refl (heartbeatFrame ++ positionFrame)
  obtain ⟨before, after, greetings, asked, place, start, handled, hsplit, hcount, hstart,
    hhandled, hmessages, hreplies⟩ := run_ofRoute frames_sent rfl (by decide)
      hroute (by rw [horder]; exact List.mem_singleton_self 0) hrun hbytes
  have hbefore : before = [] := by
    cases before with
    | nil => rfl
    | cons event before =>
        obtain ⟨rfl, -⟩ := List.cons.inj hsplit
        simp [TcpRoute.Event.connects] at hcount
  subst hbefore
  obtain rfl : start = 0 := Nat.le_zero.mp hstart
  obtain ⟨heq, -⟩ := List.cons.inj hsplit
  cases heq
  exact ⟨r, s, handled, hroute, hrun, hhandled, hmessages, hreplies 0⟩

end Airmap.Monitor.StartedDaemon
