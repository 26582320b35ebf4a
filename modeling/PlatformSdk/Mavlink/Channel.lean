import PlatformSdk.Machine.Transducer
import PlatformSdk.Mavlink.Message

/-!
# Channels

`Channel` turns bytes into messages and hands the messages to its subscribers.
`mavlink_frame_char_buffer` of the MAVLink headers is a parameter: a step on the
two buffers that the channel keeps for it.  A `FilteringChannel` is a channel
that subscribes to another one.
-/

namespace Airmap.Mavlink

open Machine

/-- What `mavlink_frame_char_buffer` returns. -/
inductive Framing where
  | incomplete
  | ok
  | badCrc
  | badSignature
  deriving DecidableEq

/-- `mavlink_frame_char_buffer`, on a parse buffer, a parse result and a byte,
and the message of a parse result. -/
structure Framer (β ο : Type*) where
  frameCharBuffer : β → ο → UInt8 → Framing × β × ο
  msg : ο → Message

namespace Channel

/-- `Channel::Counters`. -/
structure Counters where
  received : UInt64 := 0
  good : UInt64 := 0
  bad : UInt64 := 0
  deriving DecidableEq

/-- `Channel::Subscription`, the place in the list of the subscribers. -/
abbrev Subscription := ℕ

/-- `Channel::SubscriberSet`: no two subscribers have the same place. -/
structure SubscriberSet (φ : Type*) where
  entries : List (Subscription × φ) := []
  next : Subscription := 0
  below : ∀ entry ∈ entries, entry.1 < next := by simp
  distinct : (entries.map Prod.fst).Nodup := by simp

namespace SubscriberSet

variable {φ : Type*}

/-- `insert` at the end of the list. -/
def insert (s : SubscriberSet φ) (subscriber : φ) : SubscriberSet φ where
  entries := s.entries ++ [(s.next, subscriber)]
  next := s.next + 1
  below := by
    intro entry hmem
    rcases List.mem_append.mp hmem with hold | hnew
    · exact Nat.lt_succ_of_lt (s.below entry hold)
    · rw [List.mem_singleton.mp hnew]
      exact Nat.lt_succ_self s.next
  distinct := by
    have hfresh : s.next ∉ s.entries.map Prod.fst := by
      intro hmem
      obtain ⟨entry, hentry, heq⟩ := List.mem_map.mp hmem
      exact absurd (s.below entry hentry) (heq ▸ Nat.lt_irrefl _)
    simpa [List.nodup_append] using ⟨s.distinct, fun a b hab heq =>
      hfresh (heq ▸ List.mem_map_of_mem hab)⟩

/-- `erase` of a place in the list. -/
def erase (s : SubscriberSet φ) (subscription : Subscription) : SubscriberSet φ where
  entries := s.entries.filter (fun entry => entry.1 != subscription)
  next := s.next
  below := fun entry hmem => s.below entry (List.mem_of_mem_filter hmem)
  distinct := s.distinct.sublist (List.filter_sublist.map Prod.fst)

end SubscriberSet
end Channel

/-- `Channel`, with subscribers of any kind. -/
structure Channel (φ β ο : Type*) where
  counters : Channel.Counters := {}
  subscribers : Channel.SubscriberSet φ := {}
  parseBuffer : β
  parseOut : ο

namespace Channel

variable {φ β ο δ : Type*}

def subscribe (c : Channel φ β ο) (subscriber : φ) :
    Channel φ β ο × Subscription :=
  ({ c with subscribers := c.subscribers.insert subscriber }, c.subscribers.next)

def unsubscribe (c : Channel φ β ο) (subscription : Subscription) : Channel φ β ο :=
  { c with subscribers := c.subscribers.erase subscription }

/-- `Channel::start`, up to the call of `start_impl`. -/
def start (c : Channel φ β ο) : Channel φ β ο := { c with counters := {} }

/-- `Channel::invoke_subscribers`; `call` is what a call of a subscriber does. -/
def invokeSubscribers (call : Subscription → φ → Message → List δ)
    (msgs : List Message) (c : Channel φ β ο) : List δ :=
  msgs.flatMap fun msg =>
    c.subscribers.entries.flatMap fun (subscription, subscriber) =>
      call subscription subscriber msg

/-- The body of the loop in `Channel::process_mavlink_data`. -/
def processByte (framer : Framer β ο) :
    Channel φ β ο × Option (List Message) → UInt8 →
      Channel φ β ο × Option (List Message)
  | (c, result), byte =>
      let (rc, parseBuffer, parseOut) :=
        framer.frameCharBuffer c.parseBuffer c.parseOut byte
      let c := { c with parseBuffer := parseBuffer, parseOut := parseOut }
      match rc with
      | .incomplete => (c, result)
      | .ok =>
          ({ c with counters := { c.counters with
              received := c.counters.received + 1
              good := c.counters.good + 1 } },
            some (result.getD [] ++ [framer.msg parseOut]))
      | .badCrc =>
          ({ c with counters := { c.counters with
              received := c.counters.received + 1
              bad := c.counters.bad + 1 } },
            result)
      -- the switch has no case for it
      | .badSignature => (c, result)

/-- `Channel::process_mavlink_data`. -/
def processMavlinkData (framer : Framer β ο) (c : Channel φ β ο)
    (data : List UInt8) : Channel φ β ο × Option (List Message) :=
  data.foldl (processByte framer) (c, none)

/-- Calls of `process_mavlink_data` one after the other, and what each returns. -/
def processChunks (framer : Framer β ο) :
    Channel φ β ο → List (List UInt8) →
      Channel φ β ο × List (Option (List Message)) :=
  feed fun c chunk =>
    ((c.processMavlinkData framer chunk).1, [(c.processMavlinkData framer chunk).2])

/-- The messages of a result of `process_mavlink_data`. -/
def messages (result : Option (List Message)) : List Message := result.getD []

/-! ## One byte -/

/-- What a byte does to the channel, and the messages that it completes. -/
def takeByte (framer : Framer β ο) (c : Channel φ β ο) (byte : UInt8) :
    Channel φ β ο × List Message :=
  ((processByte framer (c, none) byte).1,
    messages (processByte framer (c, none) byte).2)

/-- A result with more messages; it stays empty until there is one. -/
def extend (result : Option (List Message)) : List Message → Option (List Message)
  | [] => result
  | msg :: msgs => some (messages result ++ msg :: msgs)

theorem extend_append (result : Option (List Message)) (xs ys : List Message) :
    extend (extend result xs) ys = extend result (xs ++ ys) := by
  cases xs with
  | nil => rfl
  | cons x xs =>
      cases ys with
      | nil => simp [extend]
      | cons y ys => simp [extend, messages]

theorem messages_extend_none (msgs : List Message) :
    messages (extend none msgs) = msgs := by
  cases msgs with
  | nil => rfl
  | cons msg msgs => rfl

/-- The result so far does not change what a byte does. -/
theorem processByte_eq (framer : Framer β ο) (c : Channel φ β ο)
    (result : Option (List Message)) (byte : UInt8) :
    processByte framer (c, result) byte =
      ((takeByte framer c byte).1, extend result (takeByte framer c byte).2) := by
  simp only [takeByte, processByte]
  split
  · rfl
  · rfl
  · rfl
  · rfl

/-- What a byte does to the counters, by the messages that it completes. -/
theorem takeByte_counters (framer : Framer β ο) (c : Channel φ β ο) (byte : UInt8) :
    (takeByte framer c byte).1.counters.good =
        c.counters.good + UInt64.ofNat (takeByte framer c byte).2.length ∧
      (c.counters.received = c.counters.good + c.counters.bad →
        (takeByte framer c byte).1.counters.received =
          (takeByte framer c byte).1.counters.good +
            (takeByte framer c byte).1.counters.bad) := by
  simp only [takeByte, processByte]
  split
  · simp [messages]
  · refine ⟨rfl, fun h => ?_⟩
    simp only [h]
    ac_rfl
  · refine ⟨by simp [messages], fun h => ?_⟩
    simp only [h]
    ac_rfl
  · simp [messages]

theorem takeByte_subscribers (framer : Framer β ο) (c : Channel φ β ο)
    (byte : UInt8) : (takeByte framer c byte).1.subscribers = c.subscribers := by
  simp only [takeByte, processByte]
  split
  · rfl
  · rfl
  · rfl
  · rfl

/-! ## Whole streams -/

theorem foldl_processByte (framer : Framer β ο) (c : Channel φ β ο)
    (result : Option (List Message)) (data : List UInt8) :
    data.foldl (processByte framer) (c, result) =
      ((feed (takeByte framer) c data).1,
        extend result (feed (takeByte framer) c data).2) := by
  induction data generalizing c result with
  | nil => rfl
  | cons byte data ih =>
      rw [List.foldl_cons, processByte_eq, ih, extend_append, feed_cons]

/-- A call is a run of single bytes. -/
theorem processMavlinkData_eq_feed (framer : Framer β ο) (c : Channel φ β ο)
    (data : List UInt8) :
    c.processMavlinkData framer data =
      ((feed (takeByte framer) c data).1,
        extend none (feed (takeByte framer) c data).2) :=
  foldl_processByte framer c none data

/-- The calls end, and find messages, as a run of the bytes of all of them. -/
theorem processChunks_eq_feed (framer : Framer β ο) (c : Channel φ β ο)
    (chunks : List (List UInt8)) :
    ((processChunks framer c chunks).1,
        (processChunks framer c chunks).2.flatMap messages) =
      feed (takeByte framer) c chunks.flatten := by
  rw [← feed_flatten, processChunks, ← feed_flatMap]
  congr 1
  funext c chunk
  simp [processMavlinkData_eq_feed, messages_extend_none]

/-- The counters of a run count its messages, and what was received is good or
bad. -/
theorem feed_takeByte_counters (framer : Framer β ο) (c : Channel φ β ο)
    (data : List UInt8) :
    (feed (takeByte framer) c data).1.counters.good =
        c.counters.good + UInt64.ofNat (feed (takeByte framer) c data).2.length ∧
      (c.counters.received = c.counters.good + c.counters.bad →
        (feed (takeByte framer) c data).1.counters.received =
          (feed (takeByte framer) c data).1.counters.good +
            (feed (takeByte framer) c data).1.counters.bad) := by
  induction data generalizing c with
  | nil => simp
  | cons byte data ih =>
      obtain ⟨hgood, hreceived⟩ := takeByte_counters framer c byte
      obtain ⟨hgoodRest, hreceivedRest⟩ := ih (takeByte framer c byte).1
      rw [feed_cons]
      refine ⟨?_, fun h => hreceivedRest (hreceived h)⟩
      rw [hgoodRest, hgood, List.length_append, UInt64.ofNat_add, UInt64.add_assoc]

/-- A stream gives the same messages, counters and parser state in pieces and in
one call; since the start every message that was returned has been counted as
good, and every other one that was received as bad. -/
theorem processChunks_eq_processMavlinkData (framer : Framer β ο)
    (c : Channel φ β ο) (chunks : List (List UInt8)) :
    (processChunks framer c chunks).1 =
        (c.processMavlinkData framer chunks.flatten).1 ∧
      (processChunks framer c chunks).2.flatMap messages =
        messages (c.processMavlinkData framer chunks.flatten).2 ∧
      (processChunks framer c.start chunks).1.counters.received =
        (processChunks framer c.start chunks).1.counters.good +
          (processChunks framer c.start chunks).1.counters.bad ∧
      (processChunks framer c.start chunks).1.counters.good = UInt64.ofNat
        ((processChunks framer c.start chunks).2.flatMap messages).length := by
  have hchunks := processChunks_eq_feed framer c chunks
  have hstarted := processChunks_eq_feed framer c.start chunks
  have hcounters := feed_takeByte_counters framer c.start chunks.flatten
  rw [← hstarted] at hcounters
  rw [processMavlinkData_eq_feed, ← hchunks, messages_extend_none]
  refine ⟨rfl, rfl, hcounters.2 rfl, ?_⟩
  rw [hcounters.1]
  simp [start]

/-! ## Reading from an endpoint -/

/-- `TcpChannel::handle_read` for the bytes that were read without an error: what
the subscribers do, before the next read is started. -/
def handleRead (framer : Framer β ο) (call : Subscription → φ → Message → List δ)
    (c : Channel φ β ο) (transferred : List UInt8) : Channel φ β ο × List δ :=
  match c.processMavlinkData framer transferred with
  | (c, some msgs) => (c, c.invokeSubscribers call msgs)
  | (c, none) => (c, [])

theorem feed_takeByte_subscribers (framer : Framer β ο) (c : Channel φ β ο)
    (data : List UInt8) :
    (feed (takeByte framer) c data).1.subscribers = c.subscribers :=
  feed_invariant (fun c' => c'.subscribers = c.subscribers)
    (fun c' byte h => (takeByte_subscribers framer c' byte).trans h) rfl data

theorem handleRead_eq (framer : Framer β ο)
    (call : Subscription → φ → Message → List δ) (c : Channel φ β ο)
    (transferred : List UInt8) :
    c.handleRead framer call transferred =
      ((feed (takeByte framer) c transferred).1,
        c.invokeSubscribers call (feed (takeByte framer) c transferred).2) := by
  have hsame := feed_takeByte_subscribers framer c transferred
  simp only [handleRead, processMavlinkData_eq_feed]
  cases hmsgs : (feed (takeByte framer) c transferred).2 with
  | nil => simp [extend, invokeSubscribers]
  | cons msg msgs => simp [extend, messages, invokeSubscribers, hsame]

end Channel

/-! ## Filtering -/

/-- What is subscribed to the channel below a `FilteringChannel`: the function
that its `start_impl` passes, or a subscriber of somebody else. -/
inductive Channel.Callback (χ : Type*) where
  | filter
  | other (subscriber : χ)
  deriving DecidableEq

/-- `FilteringChannel`: its own subscribers as a channel, and the channel below. -/
structure FilteringChannel (φ χ β ο : Type*) where
  channel : Channel φ β ο
  next : Channel (Channel.Callback χ) β ο
  systemId : UInt8
  subscription : Option Channel.Subscription := none

namespace FilteringChannel

variable {φ χ β ο : Type*}

/-- `FilteringChannel::start_impl`, after the counters are reset. -/
def start (c : FilteringChannel φ χ β ο) : FilteringChannel φ χ β ο :=
  let (next, subscription) := c.next.subscribe .filter
  { c with
    channel := c.channel.start
    next := next
    subscription := some subscription }

/-- `FilteringChannel::stop_impl`. -/
def stop (c : FilteringChannel φ χ β ο) : FilteringChannel φ χ β ο :=
  match c.subscription with
  | some subscription => { c with next := c.next.unsubscribe subscription }
  | none => c

/-- The function that `start_impl` subscribes, as a subscriber of the channel
below; a call of a subscriber of this channel is its place and the message. -/
def callback (c : FilteringChannel φ χ β ο) (_ : Channel.Subscription) :
    Channel.Callback χ → Message → List (Channel.Subscription × Message)
  | .filter, msg =>
      -- the call of `invoke_subscribers` is what the `return` returns
      if msg.sysid ≠ c.systemId then
        c.channel.invokeSubscribers (fun subscription _ msg => [(subscription, msg)])
          [msg]
      else []
  | .other _, _ => []

/-- What the subscribers receive while the channel below delivers `batches`. -/
def deliver (c : FilteringChannel φ χ β ο) (batches : List (List Message)) :
    List (Channel.Subscription × Message) :=
  batches.flatMap fun msgs => c.next.invokeSubscribers c.callback msgs

/-- The places where the function of `start_impl` is subscribed. -/
def filterPlaces (c : FilteringChannel φ χ β ο) : List Channel.Subscription :=
  c.next.subscribers.entries.filterMap fun
    | (subscription, .filter) => some subscription
    | (_, .other _) => none

/-- Started, and not stopped since. -/
def IsStarted (c : FilteringChannel φ χ β ο) : Prop :=
  ∃ subscription, c.subscription = some subscription ∧ c.filterPlaces = [subscription]

theorem isStarted_start {c : FilteringChannel φ χ β ο} (h : c.filterPlaces = []) :
    c.start.IsStarted := by
  refine ⟨c.next.subscribers.next, rfl, ?_⟩
  have hplaces : c.start.filterPlaces =
      c.filterPlaces ++ [c.next.subscribers.next] := by
    simp [start, Channel.subscribe, Channel.SubscriberSet.insert, filterPlaces]
  rw [hplaces, h, List.nil_append]

/-- Only the function of `start_impl` hands messages on. -/
theorem invokeSubscribers_callback (c : FilteringChannel φ χ β ο) (msg : Message) :
    c.next.invokeSubscribers c.callback [msg] =
      c.filterPlaces.flatMap fun place => c.callback place .filter msg := by
  simp only [Channel.invokeSubscribers, filterPlaces, List.flatMap_singleton]
  induction c.next.subscribers.entries with
  | nil => rfl
  | cons entry entries ih =>
      obtain ⟨place, f⟩ := entry
      cases f with
      | filter => simp [ih]
      | other subscriber =>
          have hother : c.callback place (.other subscriber) msg = [] := rfl
          simp [ih, hother]

/-- What the subscribers of a started channel receive of one message. -/
theorem invokeSubscribers_callback_of_isStarted {c : FilteringChannel φ χ β ο}
    (hstarted : c.IsStarted) (msg : Message) :
    c.next.invokeSubscribers c.callback [msg] =
      if msg.sysid ≠ c.systemId then
        (c.channel.subscribers.entries.map Prod.fst).map fun place => (place, msg)
      else [] := by
  obtain ⟨subscription, -, hplaces⟩ := hstarted
  rw [invokeSubscribers_callback, hplaces, List.flatMap_singleton, List.map_map,
    List.map_eq_flatMap]
  simp [callback, Channel.invokeSubscribers]

/-- The batches do not matter, only the messages in them. -/
theorem deliver_eq_flatMap (c : FilteringChannel φ χ β ο)
    (batches : List (List Message)) :
    c.deliver batches =
      batches.flatten.flatMap fun msg => c.next.invokeSubscribers c.callback [msg] := by
  induction batches with
  | nil => rfl
  | cons msgs batches ih =>
      have hfirst : c.next.invokeSubscribers c.callback msgs =
          msgs.flatMap fun msg => c.next.invokeSubscribers c.callback [msg] := by
        simp [Channel.invokeSubscribers]
      rw [List.flatten_cons, List.flatMap_append, ← ih, ← hfirst]
      rfl

/-- Each subscriber receives the messages of the other systems. -/
theorem outputsOf_deliver {c : FilteringChannel φ χ β ο} (hstarted : c.IsStarted)
    (batches : List (List Message)) {subscription : Channel.Subscription}
    (hmem : subscription ∈ c.channel.subscribers.entries.map Prod.fst) :
    outputsOf subscription (c.deliver batches) =
      batches.flatten.filter (fun msg => msg.sysid != c.systemId) := by
  have hone : ∀ msg, outputsOf subscription (c.next.invokeSubscribers c.callback [msg]) =
      if msg.sysid ≠ c.systemId then [msg] else [] := by
    intro msg
    rw [invokeSubscribers_callback_of_isStarted hstarted]
    split
    · exact outputsOf_map_const c.channel.subscribers.distinct hmem msg
    · rfl
  rw [deliver_eq_flatMap, outputsOf_flatMap]
  induction batches.flatten with
  | nil => rfl
  | cons msg msgs ih =>
      rw [List.flatMap_cons, hone, ih]
      by_cases h : msg.sysid = c.systemId
      · simp [h]
      · simp [h]

/-- A channel that is stopped hands nothing on any more. -/
theorem deliver_stop {c : FilteringChannel φ χ β ο} (hstarted : c.IsStarted)
    (batches : List (List Message)) : c.stop.deliver batches = [] := by
  obtain ⟨subscription, hsubscription, hplaces⟩ := hstarted
  have hstop : c.stop.filterPlaces =
      c.filterPlaces.filter (fun place => place != subscription) := by
    simp only [stop, hsubscription, filterPlaces, Channel.unsubscribe,
      Channel.SubscriberSet.erase]
    induction c.next.subscribers.entries with
    | nil => rfl
    | cons entry entries ih =>
        obtain ⟨place, f⟩ := entry
        cases f with
        | filter =>
            by_cases h : place = subscription
            · simp [h, ih]
            · simp [h, ih]
        | other subscriber =>
            by_cases h : place = subscription
            · simp [h, ih]
            · simp [h, ih]
  rw [hplaces] at hstop
  rw [deliver_eq_flatMap, List.flatMap_eq_nil_iff]
  intro msg hmsg
  rw [invokeSubscribers_callback, hstop]
  simp

/-- A list is filtered the same by a test and by its negation only if it is
empty. -/
theorem filter_ne_eq_filter_eq_iff {α κ : Type*} [DecidableEq κ] (key : α → κ) (k : κ)
    (as : List α) :
    as.filter (fun a => key a != k) = as.filter (fun a => key a == k) ↔ as = [] := by
  constructor
  · intro h
    apply List.eq_nil_iff_forall_not_mem.mpr
    intro a hmem
    have hiff := congrArg (fun l => a ∈ l) h
    by_cases hkey : key a = k
    · simp [hmem, hkey] at hiff
    · simp [hmem, hkey] at hiff
  · intro h
    rw [h]
    rfl

/-- Every subscriber of a started channel receives exactly the messages of the
system id where there is no message, or no subscriber. -/
theorem deliver_eq_filter_iff {c : FilteringChannel φ χ β ο} (hstarted : c.IsStarted)
    (batches : List (List Message)) :
    (∀ subscription ∈ c.channel.subscribers.entries.map Prod.fst,
        outputsOf subscription (c.deliver batches) =
          batches.flatten.filter (fun msg => msg.sysid == c.systemId)) ↔
      batches.flatten = [] ∨ c.channel.subscribers.entries = [] := by
  constructor
  · intro h
    cases hentries : c.channel.subscribers.entries with
    | nil => exact Or.inr rfl
    | cons entry entries =>
        have hmem : entry.1 ∈ c.channel.subscribers.entries.map Prod.fst := by
          simp [hentries]
        refine Or.inl ((filter_ne_eq_filter_eq_iff Message.sysid c.systemId _).mp ?_)
        rw [← outputsOf_deliver hstarted batches hmem]
        exact h entry.1 hmem
  · rintro (hbatches | hentries) subscription hmem
    · rw [outputsOf_deliver hstarted batches hmem, hbatches]
      rfl
    · simp [hentries] at hmem

/-- A started channel for the system 1 with one subscriber. -/
def oneSubscriber : FilteringChannel Unit Unit Unit Unit :=
  start
    { channel := (Channel.subscribe { parseBuffer := (), parseOut := () } ()).1
      next := { parseBuffer := (), parseOut := () }
      systemId := 1 }

/-- One message of the system 1 and one of the system 2. -/
def twoSystems : List (List Message) := [[⟨1, .other⟩, ⟨2, .other⟩]]

theorem isStarted_oneSubscriber : oneSubscriber.IsStarted := isStarted_start rfl

/-- The subscriber for the system 1 receives the message of the system 2. -/
theorem deliver_twoSystems_ne_filter :
    oneSubscriber.IsStarted ∧
      ∃ subscription ∈ oneSubscriber.channel.subscribers.entries.map Prod.fst,
        outputsOf subscription (oneSubscriber.deliver twoSystems) ≠
          twoSystems.flatten.filter (fun msg => msg.sysid == oneSubscriber.systemId) :=
  ⟨isStarted_oneSubscriber, 0, by decide, by decide⟩

/-- The equivalence for this channel and these messages. -/
theorem deliver_twoSystems_eq_filter_iff :
    (∀ subscription ∈ oneSubscriber.channel.subscribers.entries.map Prod.fst,
        outputsOf subscription (oneSubscriber.deliver twoSystems) =
          twoSystems.flatten.filter (fun msg => msg.sysid == oneSubscriber.systemId)) ↔
      twoSystems.flatten = [] ∨ oneSubscriber.channel.subscribers.entries = [] :=
  deliver_eq_filter_iff isStarted_oneSubscriber twoSystems

end FilteringChannel
end Airmap.Mavlink
