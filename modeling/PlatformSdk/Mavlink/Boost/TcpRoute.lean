import Mathlib.Data.List.Nodup
import Mathlib.Data.Nat.Notation
import PlatformSdk.Machine.Run

/-!
# Sessions of a TCP route

`TcpRoute::Session` queues the encodings of the messages it is given and hands
them to `async_write` one after the other.  A write is started when a buffer
comes into an empty queue and when a write before it succeeds, so that nobody
goes on after a write that fails.
-/

namespace Airmap.Mavlink.Boost.TcpRoute

/-- `Session::EncodedBuffer`; of its array only what was written is kept. -/
structure EncodedBuffer where
  data : List UInt8
  size : ℕ
  deriving DecidableEq

/-- An element of `buffers_`.  Its number tells it from other elements with the
same content. -/
structure Buffer where
  number : ℕ
  encoded : EncodedBuffer
  deriving DecidableEq

/-- `Session`, with the tasks it posted to the `io_service` that did not run yet
and the `async_write` operations that did not complete yet. -/
structure Session where
  posted : List Buffer := []
  buffers : List Buffer := []
  writing : List Buffer := []
  /-- What was encoded, in the order of the calls. -/
  processed : List Buffer := []
  /-- What was handed to `async_write`, in this order. -/
  handed : List Buffer := []
  deriving DecidableEq

namespace Session

variable {μ : Type*} (toSendBuffer : μ → List UInt8)

/-- The buffer that `mavlink_msg_to_send_buffer` fills. -/
def encode (message : μ) : EncodedBuffer where
  data := toSendBuffer message
  size := (toSendBuffer message).length

/-- `Session::process(message)`, which posts the task that queues the buffer. -/
def process (message : μ) (s : Session) : Session :=
  let eb : Buffer := ⟨s.processed.length, encode toSendBuffer message⟩
  { s with posted := s.posted ++ [eb], processed := s.processed ++ [eb] }

/-- `Session::process()`, which starts to write the front of the queue. -/
def processFront (s : Session) : Session :=
  match s.buffers with
  | [] => s
  | eb :: _ => { s with writing := s.writing ++ [eb], handed := s.handed ++ [eb] }

/-- The task that `process` posts. -/
def emplace (eb : Buffer) (s : Session) : Session :=
  let s := { s with buffers := s.buffers ++ [eb] }
  if s.buffers.length = 1 then s.processFront else s

/-- The handler of `async_write`. -/
def handleWrite (error : Bool) (s : Session) : Session :=
  let s := { s with buffers := s.buffers.tail }
  if error then s
  else if s.buffers ≠ [] then s.processFront
  else s

/-- What can happen to a session.  `process` asks the socket for the endpoint it
is connected to, and throws where there is none. -/
inductive Event (μ : Type*) where
  | process (message : μ) (connected : Bool)
  | turn
  | written (i : ℕ) (error : Bool)

def step (s : Session) : Event μ → Option Session
  | .process message connected =>
      if connected then some (s.process toSendBuffer message) else some s
  | .turn =>
      match s.posted with
      | [] => none
      | eb :: rest => some ({ s with posted := rest }.emplace eb)
  | .written i error =>
      match s.writing[i]? with
      | none => none
      | some _ =>
          some ({ s with writing := s.writing.eraseIdx i }.handleWrite error)

/-- A session that was just created. -/
def create : Session := {}

/-! ## What one step does -/

variable {toSendBuffer : μ → List UInt8} {s s' : Session}

/-- Nothing is being written, or the front of the queue and nothing else. -/
def WritesFront (s : Session) : Prop :=
  s.writing = [] ∨ ∃ eb rest, s.buffers = eb :: rest ∧ s.writing = [eb]

/-- What an event does to a session that writes the front of its queue. -/
inductive Step (toSendBuffer : μ → List UInt8) (s : Session) :
    Event μ → Session → Prop where
  | refused (message : μ) : Step toSendBuffer s (.process message false) s
  | process (message : μ) :
      Step toSendBuffer s (.process message true) (s.process toSendBuffer message)
  | started {eb : Buffer} {rest : List Buffer} (hposted : s.posted = eb :: rest)
      (hbuffers : s.buffers = []) (hwriting : s.writing = []) :
      Step toSendBuffer s .turn
        { s with
          posted := rest
          buffers := [eb]
          writing := [eb]
          handed := s.handed ++ [eb] }
  | queued {eb : Buffer} {rest : List Buffer} (hposted : s.posted = eb :: rest)
      (hbuffers : s.buffers ≠ []) :
      Step toSendBuffer s .turn
        { s with posted := rest, buffers := s.buffers ++ [eb] }
  | failed {i : ℕ} {eb : Buffer} {rest : List Buffer} (hi : s.writing[i]? = some eb)
      (hbuffers : s.buffers = eb :: rest) (hwriting : s.writing = [eb]) :
      Step toSendBuffer s (.written i true) { s with buffers := rest, writing := [] }
  | emptied {i : ℕ} {eb : Buffer} (hi : s.writing[i]? = some eb)
      (hbuffers : s.buffers = [eb]) (hwriting : s.writing = [eb]) :
      Step toSendBuffer s (.written i false) { s with buffers := [], writing := [] }
  | continued {i : ℕ} {eb eb' : Buffer} {rest : List Buffer}
      (hi : s.writing[i]? = some eb) (hbuffers : s.buffers = eb :: eb' :: rest)
      (hwriting : s.writing = [eb]) :
      Step toSendBuffer s (.written i false)
        { s with
          buffers := eb' :: rest
          writing := [eb']
          handed := s.handed ++ [eb'] }

/-- The write that completes is that of the front, and the only one. -/
theorem WritesFront.completes {i : ℕ} {eb : Buffer} (h : s.WritesFront)
    (hi : s.writing[i]? = some eb) :
    (∃ rest, s.buffers = eb :: rest) ∧ s.writing = [eb] ∧
      s.writing.eraseIdx i = [] := by
  rcases h with hnone | ⟨front, rest, hbuffers, hwriting⟩
  · simp [hnone] at hi
  · rw [hwriting] at hi
    obtain ⟨hlt, heq⟩ := List.getElem?_eq_some_iff.mp hi
    have hzero : i = 0 := by simpa using hlt
    subst hzero
    have hsame : front = eb := heq
    subst hsame
    exact ⟨⟨rest, hbuffers⟩, hwriting, by rw [hwriting]; rfl⟩

theorem WritesFront.writing_of_empty (h : s.WritesFront) (hbuffers : s.buffers = []) :
    s.writing = [] := by
  rcases h with hnone | ⟨eb, rest, hfront, -⟩
  · exact hnone
  · rw [hbuffers] at hfront
    cases hfront

/-- A buffer is written when it comes into an empty queue. -/
theorem WritesFront.emplace {eb : Buffer} {rest : List Buffer} (h : s.WritesFront)
    (hposted : s.posted = eb :: rest) :
    Step toSendBuffer s .turn ({ s with posted := rest }.emplace eb) := by
  by_cases hbuffers : s.buffers = []
  · have hwriting := h.writing_of_empty hbuffers
    have hstarted : Step toSendBuffer s .turn _ :=
      .started hposted hbuffers hwriting
    simpa [Session.emplace, processFront, hbuffers, hwriting] using hstarted
  · have hqueued : Step toSendBuffer s .turn _ := .queued hposted hbuffers
    simpa [Session.emplace, hbuffers] using hqueued

/-- After a write that succeeds the next one is started, if there is one. -/
theorem WritesFront.handleWrite {i : ℕ} {eb : Buffer} (h : s.WritesFront)
    (hi : s.writing[i]? = some eb) (error : Bool) :
    Step toSendBuffer s (.written i error)
      ({ s with writing := s.writing.eraseIdx i }.handleWrite error) := by
  obtain ⟨⟨rest, hbuffers⟩, hwriting, herase⟩ := h.completes hi
  rw [herase]
  cases error with
  | true =>
      have hfailed : Step toSendBuffer s (.written i true) _ :=
        .failed hi hbuffers hwriting
      simpa [Session.handleWrite, hbuffers] using hfailed
  | false =>
      cases rest with
      | nil =>
          have hemptied : Step toSendBuffer s (.written i false) _ :=
            .emptied hi hbuffers hwriting
          simpa [Session.handleWrite, hbuffers] using hemptied
      | cons eb' rest =>
          have hcontinued : Step toSendBuffer s (.written i false) _ :=
            .continued hi hbuffers hwriting
          simpa [Session.handleWrite, processFront, hbuffers] using hcontinued

theorem step_cases {event : Event μ} (h : s.WritesFront)
    (hstep : s.step toSendBuffer event = some s') : Step toSendBuffer s event s' := by
  cases event with
  | process message connected =>
      cases connected with
      | true =>
          cases hstep
          exact .process message
      | false =>
          cases hstep
          exact .refused message
  | turn =>
      simp only [step] at hstep
      split at hstep
      next => cases hstep
      next eb rest hposted =>
        cases hstep
        exact h.emplace hposted
  | written i error =>
      simp only [step] at hstep
      split at hstep
      next => cases hstep
      next eb hi =>
        cases hstep
        exact h.handleWrite hi error

/-! ## The single writer -/

theorem Step.writesFront {event : Event μ} (hstep : Step toSendBuffer s event s')
    (h : s.WritesFront) : s'.WritesFront := by
  cases hstep with
  | refused | process => exact h
  | started => exact Or.inr ⟨_, _, rfl, rfl⟩
  | @queued queued _ hposted hbuffers =>
      rcases h with hnone | ⟨eb, rest, hfront, hwriting⟩
      · exact Or.inl hnone
      · exact Or.inr ⟨eb, rest ++ [queued], by simp [hfront], hwriting⟩
  | failed | emptied => exact Or.inl rfl
  | continued => exact Or.inr ⟨_, _, rfl, rfl⟩

/-! ## The queue is served -/

/-- A queue that is not empty is being written. -/
def Served (s : Session) : Prop :=
  s.buffers ≠ [] → s.writing.length = 1

instance : DecidablePred Served := fun _ => inferInstanceAs (Decidable (_ → _))

/-- A write that fails was that of the last buffer in the queue. -/
def FailsAlone (s : Session) : Event μ → Prop
  | .written i true => ∀ eb ∈ s.writing[i]?, s.buffers = [eb]
  | _ => True

theorem Step.served_iff {event : Event μ} (hstep : Step toSendBuffer s event s')
    (h : s.Served) : s'.Served ↔ s.FailsAlone event := by
  cases hstep with
  | refused | process => exact iff_of_true h trivial
  | started | emptied | continued => exact iff_of_true (by simp [Served]) trivial
  | queued hposted hbuffers => exact iff_of_true (fun _ => h hbuffers) trivial
  | failed hi hbuffers hwriting =>
      simp [Served, FailsAlone, hi, hbuffers]

theorem failsAlone_of_disabled {event : Event μ}
    (h : s.step toSendBuffer event = none) : s.FailsAlone event := by
  unfold FailsAlone
  split
  next i =>
    intro eb hi
    simp [step, Option.mem_def.mp hi] at h
  next => trivial

/-- The queue of a session is served in every state of a run exactly when every
write that fails was that of the last buffer. -/
theorem served_along_iff_failsAlone {μ : Type*} (toSendBuffer : μ → List UInt8)
    (events : List (Event μ)) :
    Machine.Along (step toSendBuffer) Served create events ↔
      Machine.Meets (step toSendBuffer) FailsAlone create events := by
  apply Machine.along_iff_meets WritesFront
  · exact fun s event s' h _ hstep _ => (step_cases h hstep).writesFront h
  · exact fun s event s' h hserved hstep => (step_cases h hstep).served_iff hserved
  · exact fun s event => failsAlone_of_disabled
  · exact Or.inl rfl
  · exact fun hbuffers => absurd rfl hbuffers

/-- A queue that nobody writes stays so: what comes into it is never handed
over. -/
theorem stalled_run {events : List (Event μ)} (hbuffers : s.buffers ≠ [])
    (hwriting : s.writing = [])
    (hrun : Machine.run (step toSendBuffer) s events = some s') :
    s'.buffers ≠ [] ∧ s'.writing = [] ∧ s'.handed = s.handed := by
  apply Machine.invariant_run
    (fun s' => s'.buffers ≠ [] ∧ s'.writing = [] ∧ s'.handed = s.handed)
    (C := fun _ _ => True) ?_ ⟨hbuffers, hwriting, rfl⟩
    (Machine.meets_of_mem _ fun _ _ => trivial) hrun
  rintro before event after ⟨hqueue, hnone, hhanded⟩ - hnext
  cases step_cases (Or.inl hnone) hnext with
  | refused | process => exact ⟨hqueue, hnone, hhanded⟩
  | started hposted hempty => exact absurd hempty hqueue
  | queued => exact ⟨by simp, hnone, hhanded⟩
  | failed hi | emptied hi | continued hi => simp [hnone] at hi

/-- The first of two writes fails, and nobody starts the second one. -/
theorem queue_stalled :
    ∃ s, Machine.run (step fun message : UInt8 => [message]) create
        [.process 1 true, .process 2 true, .turn, .turn, .written 0 true] = some s ∧
      ¬ s.Served :=
  Machine.exists_run (by decide)

/-! ## The order of the writes -/

/-- What is in the queue and was not handed over yet. -/
def waiting (s : Session) : List Buffer := s.buffers.drop s.writing.length

/-- Every buffer was handed over, waits in the queue, or in a posted task. -/
def Ledger (s : Session) : Prop :=
  s.handed ++ s.waiting ++ s.posted = s.processed

theorem WritesFront.length_le (h : s.WritesFront) :
    s.writing.length ≤ 1 ∧ s.writing.length ≤ s.buffers.length := by
  rcases h with hnone | ⟨eb, rest, hbuffers, hwriting⟩
  · simp [hnone]
  · simp [hbuffers, hwriting]

theorem Step.ledger {event : Event μ} (hstep : Step toSendBuffer s event s')
    (hfront : s.WritesFront) (h : s.Ledger) : s'.Ledger := by
  unfold Ledger waiting at h ⊢
  cases hstep with
  | refused => exact h
  | process message =>
      rw [Session.process, ← h]
      simp
  | started hposted hbuffers hwriting =>
      rw [← h]
      simp [hposted, hbuffers, hwriting]
  | queued hposted hbuffers =>
      rw [← h, List.drop_append_of_le_length hfront.length_le.2]
      simp [hposted]
  | failed hi hbuffers hwriting | emptied hi hbuffers hwriting =>
      rw [← h]
      simp [hbuffers, hwriting]
  | continued hi hbuffers hwriting =>
      rw [← h]
      simp [hbuffers, hwriting]

/-- The message of a call that does not throw. -/
def Event.messages : Event μ → List μ
  | .process message true => [message]
  | _ => []

/-- The buffers of the calls are numbered in their order. -/
def Numbered (s : Session) : Prop :=
  s.processed.map Buffer.number = List.range s.processed.length

theorem Step.numbered {event : Event μ} (hstep : Step toSendBuffer s event s')
    (h : s.Numbered) : s'.Numbered := by
  cases hstep with
  | process message =>
      have hold : s.processed.map Buffer.number = List.range s.processed.length := h
      simp [Numbered, Session.process, hold, List.range_succ]
  | _ => exact h

theorem Step.processed_encoded {event : Event μ}
    (hstep : Step toSendBuffer s event s') :
    s'.processed.map Buffer.encoded =
      s.processed.map Buffer.encoded ++ event.messages.map (encode toSendBuffer) := by
  cases hstep with
  | process message => simp [Session.process, Event.messages]
  | _ => simp [Event.messages]

/-- What holds of a session in every run. -/
structure InOrder (s : Session) : Prop where
  front : s.WritesFront
  ledger : s.Ledger
  numbered : s.Numbered

theorem Step.inOrder {event : Event μ} (hstep : Step toSendBuffer s event s')
    (h : s.InOrder) : s'.InOrder where
  front := hstep.writesFront h.front
  ledger := hstep.ledger h.front h.ledger
  numbered := hstep.numbered h.numbered

theorem inOrder_create : create.InOrder := ⟨Or.inl rfl, rfl, rfl⟩

theorem inOrder_run {events : List (Event μ)}
    (hrun : Machine.run (step toSendBuffer) create events = some s) : s.InOrder :=
  Machine.invariant_run InOrder (C := fun _ _ => True)
    (fun _ _ _ h _ hstep => (step_cases h.front hstep).inOrder h) inOrder_create
    (Machine.meets_of_mem _ fun _ _ => trivial) hrun

theorem processed_run {events : List (Event μ)}
    (hrun : Machine.run (step toSendBuffer) create events = some s) :
    s.processed.map Buffer.encoded =
      (events.flatMap Event.messages).map (encode toSendBuffer) := by
  have hemits := Machine.run_emits WritesFront
    (fun s => s.processed.map Buffer.encoded)
    (fun event : Event μ => event.messages.map (encode toSendBuffer))
    (fun s event s' h hstep => ⟨(step_cases h hstep).writesFront h,
      (step_cases h hstep).processed_encoded⟩) (Or.inl rfl) hrun
  simpa [create, List.map_flatMap] using hemits

/-- Buffers with different numbers are different, whatever they hold. -/
theorem Numbered.nodup (h : s.Numbered) : s.processed.Nodup := by
  apply List.Nodup.of_map Buffer.number
  rw [show s.processed.map Buffer.number = _ from h]
  exact List.nodup_range

theorem Ledger.handed_sublist (h : s.Ledger) : s.handed.Sublist s.processed := by
  rw [← show _ = s.processed from h, List.append_assoc]
  exact List.sublist_append_left _ _

/-- At most one write is outstanding and its buffer is the front of the queue;
what was handed to `async_write` are encodings of the messages in their order,
none of them twice, and what is missing is still queued. -/
theorem writes_in_order {events : List (Event μ)}
    (hrun : Machine.run (step toSendBuffer) create events = some s) :
    s.writing.length ≤ 1 ∧ (∀ eb ∈ s.writing, s.buffers.head? = some eb) ∧
      s.handed.Nodup ∧
      (s.handed.map Buffer.encoded).Sublist
        ((events.flatMap Event.messages).map (encode toSendBuffer)) ∧
      (s.handed ++ s.waiting ++ s.posted).map Buffer.encoded =
        (events.flatMap Event.messages).map (encode toSendBuffer) := by
  have hinv := inOrder_run hrun
  have hprocessed := processed_run hrun
  have hsublist := hinv.ledger.handed_sublist
  refine ⟨hinv.front.length_le.1, ?_, hsublist.nodup hinv.numbered.nodup, ?_, ?_⟩
  · intro eb heb
    rcases hinv.front with hnone | ⟨front, rest, hbuffers, hwriting⟩
    · simp [hnone] at heb
    · rw [hwriting, List.mem_singleton] at heb
      rw [hbuffers, heb]
      rfl
  · rw [← hprocessed]
    exact hsublist.map _
  · rw [← hprocessed, show _ = s.processed from hinv.ledger]

/-- Two messages with the same encoding, and the write of the second one fails. -/
theorem writes_in_order_failingWrite :
    ∃ s, Machine.run (step fun message : UInt8 => [message]) create
        [.process 1 true, .process 1 true, .turn, .turn, .written 0 false,
          .written 0 true, .process 2 true] = some s ∧
      s.writing.length ≤ 1 ∧ (∀ eb ∈ s.writing, s.buffers.head? = some eb) ∧
      s.handed.Nodup ∧
      (s.handed.map Buffer.encoded).Sublist
        (([1, 1, 2] : List UInt8).map (encode fun message => [message])) ∧
      (s.handed ++ s.waiting ++ s.posted).map Buffer.encoded =
        ([1, 1, 2] : List UInt8).map (encode fun message => [message]) := by
  obtain ⟨s, hrun⟩ : ∃ s, Machine.run (step fun message : UInt8 => [message]) create
      [.process 1 true, .process 1 true, .turn, .turn, .written 0 false,
        .written 0 true, .process 2 true] = some s :=
    Option.isSome_iff_exists.mp (by decide)
  exact ⟨s, hrun, writes_in_order hrun⟩

end Session
end Airmap.Mavlink.Boost.TcpRoute
