import Mathlib.Data.List.Basic
import PlatformSdk.Machine.Simulation
import PlatformSdk.Mavlink.Boost.TcpRoute

/-!
# A TCP route and its sessions

`TcpRoute` accepts one connection after the other and hands each message to all of its
sessions.  The handlers of the route and the tasks of its sessions run on one
`io_service`, tasks in the order in which they were posted.  Asking a socket for its
remote endpoint throws where the connection is gone; the exception ends the handler, and
the `io_service` goes on with the next one.
-/

namespace Airmap.Mavlink.Boost

/-- A task that was posted: that of `TcpRoute::process`, or one that the session with
the given number posted. -/
inductive TcpRoute.Task (μ : Type*) where
  | process (message : μ)
  | turn (number : ℕ)

/-- `TcpRoute`.  A session is known by its number in the order of acceptance, and
`order` has the numbers of `sessions_` in the order of this set. -/
structure TcpRoute (μ : Type*) where
  tasks : List (TcpRoute.Task μ) := []
  /-- How many `async_accept` operations are under way. -/
  accepting : ℕ := 0
  sessions : List TcpRoute.Session := []
  order : List ℕ := []

namespace TcpRoute

variable {μ : Type*} (toSendBuffer : μ → List UInt8)

/-- `TcpRoute::start`. -/
def start (r : TcpRoute μ) : TcpRoute μ :=
  { r with accepting := r.accepting + 1 }

/-- `TcpRoute::process`. -/
def process (message : μ) (r : TcpRoute μ) : TcpRoute μ :=
  { r with tasks := r.tasks ++ [.process message] }

/-- `Session::process(message)` on a session that is connected. -/
def give (r : TcpRoute μ) (number : ℕ) (message : μ) : TcpRoute μ :=
  { r with
    sessions := r.sessions.modify number (Session.process toSendBuffer message)
    tasks := r.tasks ++ [.turn number] }

/-- The task of `process`, which reaches so many sessions before one of them throws. -/
def processTask (message : μ) (reached : ℕ) (r : TcpRoute μ) : TcpRoute μ :=
  (r.order.take reached).foldl (fun r number => r.give toSendBuffer number message) r

/-- The handler of `async_accept`.  `greetings` are the messages that the monitors
process on the new session, `asked` is how often the socket knows its remote endpoint
before it throws, first of all for the log, and `place` is where the session comes in
`sessions_`. -/
def handleAccept (error : Bool) (greetings : List μ) (asked place : ℕ) (r : TcpRoute μ) :
    TcpRoute μ :=
  if error then r
  else
    let number := r.sessions.length
    let r := { r with sessions := r.sessions ++ [Session.create] }
    let r := (greetings.take (asked - 1)).foldl (fun r message =>
      r.give toSendBuffer number message) r
    if asked ≤ greetings.length then r
    else { r with order := r.order.insertIdx place number }.start

/-- What can happen to a route: somebody gives it a message, the oldest task runs, an
`async_accept` operation completes, or a write of a session does. -/
inductive Event (μ : Type*) where
  | process (message : μ)
  | turn (reached : ℕ)
  | accepted (error : Bool) (greetings : List μ) (asked place : ℕ)
  | written (number i : ℕ) (error : Bool)

/-- An event of a session that changes nothing but this session. -/
def stepSession (r : TcpRoute μ) (number : ℕ) (event : Session.Event μ) :
    Option (TcpRoute μ) :=
  match r.sessions[number]? with
  | none => none
  | some session =>
      (session.step toSendBuffer event).map fun session =>
        { r with sessions := r.sessions.set number session }

def step (r : TcpRoute μ) : Event μ → Option (TcpRoute μ)
  | .process message => some (r.process message)
  | .turn reached =>
      match r.tasks with
      | [] => none
      | .process message :: rest =>
          some ({ r with tasks := rest }.processTask toSendBuffer message reached)
      | .turn number :: rest => { r with tasks := rest }.stepSession toSendBuffer number .turn
  | .accepted error greetings asked place =>
      if 0 < r.accepting ∧ place ≤ r.order.length then
        some ({ r with accepting := r.accepting - 1 }.handleAccept toSendBuffer error
          greetings asked place)
      else none
  | .written number i error => r.stepSession toSendBuffer number (.written i error)

/-- A route that was created and started. -/
def create : TcpRoute μ := TcpRoute.start {}

/-! ## Messages for sessions -/

variable {toSendBuffer : μ → List UInt8} {r r' : TcpRoute μ}

/-- Give messages to sessions one after the other. -/
def giveAll (toSendBuffer : μ → List UInt8) (r : TcpRoute μ) (gives : List (ℕ × μ)) :
    TcpRoute μ :=
  gives.foldl (fun r given => r.give toSendBuffer given.1 given.2) r

/-- The messages that are given to one session. -/
def messagesTo (number : ℕ) (gives : List (ℕ × μ)) : List μ :=
  gives.filterMap fun given => if given.1 = number then some given.2 else none

/-- The session after it processed some messages. -/
def processAll (toSendBuffer : μ → List UInt8) (messages : List μ) (s : Session) : Session :=
  messages.foldl (fun s message => s.process toSendBuffer message) s

theorem giveAll_eq (r : TcpRoute μ) (gives : List (ℕ × μ)) :
    r.giveAll toSendBuffer gives =
      { r with
        sessions := r.sessions.mapIdx fun number session =>
          processAll toSendBuffer (messagesTo number gives) session
        tasks := r.tasks ++ gives.map fun given => .turn given.1 } := by
  induction gives generalizing r with
  | nil =>
      have hsame : (r.sessions.mapIdx fun _ session => session) = r.sessions :=
        List.ext_getElem? fun _ => by simp
      simp [giveAll, messagesTo, processAll, hsame]
  | cons given gives ih =>
      have hsessions : (r.sessions.modify given.1
          (Session.process toSendBuffer given.2)).mapIdx (fun number session =>
            processAll toSendBuffer (messagesTo number gives) session) =
          r.sessions.mapIdx fun number session =>
            processAll toSendBuffer (messagesTo number (given :: gives)) session := by
        apply List.ext_getElem?
        intro number
        by_cases hnumber : given.1 = number
        · simp [List.getElem?_mapIdx, messagesTo, hnumber, processAll, Function.comp_def]
        · simp [List.getElem?_mapIdx, messagesTo, hnumber]
      have hrest := ih (r.give toSendBuffer given.1 given.2)
      rw [giveAll, List.foldl_cons]
      rw [giveAll] at hrest
      rw [hrest]
      simp only [give, hsessions, List.map_cons, List.append_assoc, List.singleton_append]

theorem processTask_eq (message : μ) (reached : ℕ) (r : TcpRoute μ) :
    r.processTask toSendBuffer message reached =
      r.giveAll toSendBuffer ((r.order.take reached).map fun number => (number, message)) := by
  rw [processTask, giveAll, List.foldl_map]

/-- Each session of the set is given the message once, if the task reaches it. -/
theorem messagesTo_broadcast {order : List ℕ} (hnodup : order.Nodup) (number : ℕ)
    (message : μ) :
    messagesTo number (order.map fun number' => (number', message)) =
      if number ∈ order then [message] else [] := by
  induction order with
  | nil => rfl
  | cons first rest ih =>
      obtain ⟨hfirst, hrest⟩ := List.nodup_cons.mp hnodup
      have ih' := ih hrest
      simp only [messagesTo] at ih' ⊢
      by_cases hsame : first = number
      · subst hsame
        simp [ih', hfirst]
      · simp [ih', hsame, Ne.symm hsame]

theorem messagesTo_greetings (number number' : ℕ) (greetings : List μ) :
    messagesTo number (greetings.map fun message => (number', message)) =
      if number' = number then greetings else [] := by
  by_cases h : number' = number
  · simp [messagesTo, List.filterMap_map, h]
  · simp [messagesTo, List.filterMap_map, h]

section ProcessAll

variable (messages : List μ) (s : Session)

theorem processAll_processed :
    (processAll toSendBuffer messages s).processed.map Buffer.encoded =
      s.processed.map Buffer.encoded ++ messages.map (Session.encode toSendBuffer) := by
  induction messages generalizing s with
  | nil => simp [processAll]
  | cons message messages ih =>
      rw [processAll, List.foldl_cons, ← processAll, ih]
      simp [Session.process]

theorem processAll_posted :
    (processAll toSendBuffer messages s).posted.length =
      s.posted.length + messages.length := by
  induction messages generalizing s with
  | nil => rfl
  | cons message messages ih =>
      rw [processAll, List.foldl_cons, ← processAll, ih]
      simp only [Session.process, List.length_append, List.length_cons, List.length_nil]
      omega

variable {s}

theorem processAll_inOrder (h : s.InOrder) :
    (processAll toSendBuffer messages s).InOrder := by
  induction messages generalizing s with
  | nil => exact h
  | cons message messages ih =>
      have hstep : Session.Step toSendBuffer s _ (s.process toSendBuffer message) :=
        .process message
      exact ih (hstep.inOrder h)

end ProcessAll

/-! ## What one step does -/

/-- The task is one that the session with the given number posted. -/
def Task.isTurnOf (number : ℕ) : Task μ → Bool
  | .process _ => false
  | .turn number' => number' == number

/-- The message that a task hands to all sessions. -/
def Task.message : Task μ → Option μ
  | .process message => some message
  | .turn _ => none

/-- What happens to a route: a session takes an event of its own, and messages are given
to sessions. -/
inductive Step (toSendBuffer : μ → List UInt8) (r : TcpRoute μ) :
    Event μ → TcpRoute μ → Prop where
  | process (message : μ) : Step toSendBuffer r (.process message) (r.process message)
  | broadcast {message : μ} {rest : List (Task μ)} (reached : ℕ)
      (htasks : r.tasks = .process message :: rest) :
      Step toSendBuffer r (.turn reached)
        (giveAll toSendBuffer { r with tasks := rest }
          ((r.order.take reached).map fun number => (number, message)))
  | turn {number : ℕ} {session session' : Session} {rest : List (Task μ)} (reached : ℕ)
      (htasks : r.tasks = .turn number :: rest)
      (hsession : r.sessions[number]? = some session)
      (hstep : session.step toSendBuffer .turn = some session') :
      Step toSendBuffer r (.turn reached)
        { r with tasks := rest, sessions := r.sessions.set number session' }
  | written {number i : ℕ} {error : Bool} {session session' : Session}
      (hsession : r.sessions[number]? = some session)
      (hstep : session.step toSendBuffer (.written i error) = some session') :
      Step toSendBuffer r (.written number i error)
        { r with sessions := r.sessions.set number session' }
  | refused (greetings : List μ) (asked place : ℕ) (haccepting : 0 < r.accepting) :
      Step toSendBuffer r (.accepted true greetings asked place)
        { r with accepting := r.accepting - 1 }
  | left {greetings : List μ} {asked : ℕ} (place : ℕ) (haccepting : 0 < r.accepting)
      (hasked : asked ≤ greetings.length) :
      Step toSendBuffer r (.accepted false greetings asked place)
        (giveAll toSendBuffer
          { r with
            accepting := r.accepting - 1
            sessions := r.sessions ++ [Session.create] }
          ((greetings.take (asked - 1)).map fun message => (r.sessions.length, message)))
  | accepted {greetings : List μ} {asked place : ℕ} (haccepting : 0 < r.accepting)
      (hasked : greetings.length < asked) (hplace : place ≤ r.order.length) :
      Step toSendBuffer r (.accepted false greetings asked place)
        { giveAll toSendBuffer
            { r with sessions := r.sessions ++ [Session.create] }
            (greetings.map fun message => (r.sessions.length, message)) with
          order := r.order.insertIdx place r.sessions.length }

theorem step_cases {event : Event μ} (hstep : r.step toSendBuffer event = some r') :
    Step toSendBuffer r event r' := by
  rcases event with message | reached | ⟨error, greetings, asked, place⟩ | ⟨number, i, error⟩
  · cases hstep
    exact .process message
  · simp only [step] at hstep
    split at hstep
    · cases hstep
    · next message rest htasks =>
        rw [processTask_eq, Option.some.injEq] at hstep
        subst hstep
        exact .broadcast reached htasks
    · next number rest htasks =>
        simp only [stepSession] at hstep
        split at hstep
        · cases hstep
        · next session hsession =>
            obtain ⟨session', hturn, rfl⟩ := Option.map_eq_some_iff.mp hstep
            exact .turn reached htasks hsession hturn
  · simp only [step] at hstep
    split at hstep
    · next h =>
        obtain ⟨haccepting, hplace⟩ := h
        rw [Option.some.injEq] at hstep
        subst hstep
        cases error with
        | true => exact .refused greetings asked place haccepting
        | false =>
            have hgreet : ∀ (r : TcpRoute μ) (number : ℕ) (messages : List μ),
                messages.foldl (fun r message => r.give toSendBuffer number message) r =
                  giveAll toSendBuffer r (messages.map fun message => (number, message)) := by
              intro r number messages
              rw [giveAll, List.foldl_map]
            simp only [handleAccept, Bool.false_eq_true, if_false, hgreet]
            by_cases hasked : asked ≤ greetings.length
            · rw [if_pos hasked]
              exact .left place haccepting hasked
            · rw [if_neg hasked]
              have hall : greetings.take (asked - 1) = greetings :=
                List.take_of_length_le (by omega)
              have haccepted : Step toSendBuffer r (.accepted false greetings asked place) _ :=
                .accepted haccepting (by omega) hplace
              rw [hall]
              simpa [giveAll_eq, start, Nat.sub_add_cancel haccepting] using haccepted
    · cases hstep
  · simp only [step, stepSession] at hstep
    split at hstep
    · cases hstep
    · next session hsession =>
        obtain ⟨session', hwritten, rfl⟩ := Option.map_eq_some_iff.mp hstep
        exact .written hsession hwritten

/-! ## The tasks of the sessions -/

/-- The sessions of the set are told apart, and each session has as many tasks among
those of the `io_service` as it posted and did not run yet. -/
structure WellFormed (r : TcpRoute μ) : Prop where
  nodup : r.order.Nodup
  below : ∀ number ∈ r.order, number < r.sessions.length
  inOrder : ∀ (number : ℕ) (session : Session), r.sessions[number]? = some session →
    session.InOrder
  turns : ∀ (number : ℕ) (session : Session), r.sessions[number]? = some session →
    session.posted.length = r.tasks.countP (Task.isTurnOf number)
  posters : ∀ number, .turn number ∈ r.tasks → number < r.sessions.length

theorem wellFormed_create : (create : TcpRoute μ).WellFormed where
  nodup := List.nodup_nil
  below := by simp [create, start]
  inOrder := by simp [create, start]
  turns := by simp [create, start]
  posters := by simp [create, start]

theorem countP_turns (number : ℕ) (gives : List (ℕ × μ)) :
    (gives.map fun given => (Task.turn given.1 : Task μ)).countP (Task.isTurnOf number) =
      (messagesTo number gives).length := by
  induction gives with
  | nil => rfl
  | cons given gives ih =>
      simp only [messagesTo] at ih ⊢
      by_cases h : given.1 = number
      · simp [Task.isTurnOf, h, ih]
      · simp [Task.isTurnOf, h, ih]

theorem WellFormed.giveAll (h : r.WellFormed) {gives : List (ℕ × μ)}
    (hgives : ∀ given ∈ gives, given.1 < r.sessions.length) :
    (giveAll toSendBuffer r gives).WellFormed := by
  rw [giveAll_eq]
  refine ⟨h.nodup, ?_, ?_, ?_, ?_⟩
  · simpa using h.below
  · intro number session hsession
    rw [List.getElem?_mapIdx] at hsession
    obtain ⟨old, hold, rfl⟩ := Option.map_eq_some_iff.mp hsession
    exact processAll_inOrder _ (h.inOrder number old hold)
  · intro number session hsession
    rw [List.getElem?_mapIdx] at hsession
    obtain ⟨old, hold, rfl⟩ := Option.map_eq_some_iff.mp hsession
    rw [processAll_posted, h.turns number old hold, List.countP_append, countP_turns]
  · intro number hmem
    rw [List.length_mapIdx]
    rcases List.mem_append.mp hmem with hold | hnew
    · exact h.posters number hold
    · obtain ⟨given, hgiven, heq⟩ := List.mem_map.mp hnew
      cases heq
      exact hgives given hgiven

/-- A session that is changed on its own keeps the route well formed, if its tasks still
are as many as it posted. -/
theorem WellFormed.set (h : r.WellFormed) {number : ℕ} {session session' : Session}
    (hsession : r.sessions[number]? = some session) (hinOrder : session'.InOrder)
    {tasks : List (Task μ)} (htasks : tasks.Sublist r.tasks)
    (hturns : session'.posted.length = tasks.countP (Task.isTurnOf number))
    (hothers : ∀ other, other ≠ number →
      tasks.countP (Task.isTurnOf other) = r.tasks.countP (Task.isTurnOf other)) :
    { r with tasks := tasks, sessions := r.sessions.set number session' }.WellFormed := by
  have hlt := (List.getElem?_eq_some_iff.mp hsession).1
  refine ⟨h.nodup, ?_, ?_, ?_, ?_⟩
  · simpa using h.below
  · intro other session'' hother
    by_cases heq : number = other
    · subst heq
      rw [List.getElem?_set_self hlt, Option.some.injEq] at hother
      exact hother ▸ hinOrder
    · rw [List.getElem?_set_ne heq] at hother
      exact h.inOrder other session'' hother
  · intro other session'' hother
    by_cases heq : number = other
    · subst heq
      rw [List.getElem?_set_self hlt, Option.some.injEq] at hother
      exact hother ▸ hturns
    · rw [List.getElem?_set_ne heq] at hother
      rw [h.turns other session'' hother, hothers other (Ne.symm heq)]
  · intro other hmem
    rw [List.length_set]
    exact h.posters other (htasks.subset hmem)

/-- What is found in a list with one more element was in the list, or is this element. -/
theorem getElem?_concat_cases {α : Type*} {l : List α} {a b : α} {n : ℕ}
    (h : (l ++ [a])[n]? = some b) : l[n]? = some b ∨ n = l.length ∧ b = a := by
  rcases Nat.lt_or_ge n l.length with hlt | hge
  · exact Or.inl (by rwa [List.getElem?_append_left hlt] at h)
  · rw [List.getElem?_append_right hge] at h
    obtain ⟨hzero, heq⟩ := List.getElem?_eq_some_iff.mp h
    rw [List.length_singleton] at hzero
    exact Or.inr ⟨by omega, by simpa using heq.symm⟩

theorem WellFormed.addSession (h : r.WellFormed) (accepting : ℕ) :
    { r with accepting := accepting, sessions := r.sessions ++ [Session.create] }.WellFormed := by
  have hnone : r.tasks.countP (Task.isTurnOf r.sessions.length) = 0 := by
    rw [List.countP_eq_zero]
    rintro (message | number) hmem hturn
    · cases hturn
    · have hlt := h.posters number hmem
      exact Nat.ne_of_lt hlt (by simpa [Task.isTurnOf] using hturn)
  refine ⟨h.nodup, ?_, ?_, ?_, ?_⟩
  · intro number hmem
    rw [List.length_append]
    exact Nat.lt_add_right _ (h.below number hmem)
  · intro number session hsession
    rcases getElem?_concat_cases hsession with hold | ⟨-, rfl⟩
    · exact h.inOrder number session hold
    · exact Session.inOrder_create
  · intro number session hsession
    rcases getElem?_concat_cases hsession with hold | ⟨rfl, rfl⟩
    · exact h.turns number session hold
    · exact hnone.symm
  · intro number hmem
    rw [List.length_append]
    exact Nat.lt_add_right _ (h.posters number hmem)

/-- A task of a session takes the oldest buffer that it posted. -/
theorem posted_of_turn {session session' : Session} (h : session.InOrder)
    (hstep : session.step toSendBuffer .turn = some session') :
    session.posted.length = session'.posted.length + 1 := by
  cases Session.step_cases h.front hstep with
  | started hposted | queued hposted => simp [hposted]

theorem posted_of_written {session session' : Session} (h : session.InOrder) {i : ℕ}
    {error : Bool} (hstep : session.step toSendBuffer (.written i error) = some session') :
    session'.posted = session.posted := by
  cases Session.step_cases h.front hstep with
  | failed | emptied | continued => rfl

theorem WellFormed.dropProcess (h : r.WellFormed) {message : μ} {rest : List (Task μ)}
    (htasks : r.tasks = .process message :: rest) :
    { r with tasks := rest }.WellFormed := by
  refine ⟨h.nodup, h.below, h.inOrder, ?_, ?_⟩
  · intro number session hsession
    have hturns := h.turns number session hsession
    rw [htasks] at hturns
    simpa [Task.isTurnOf] using hturns
  · intro number hmem
    exact h.posters number (by rw [htasks]; exact List.mem_cons_of_mem _ hmem)

theorem Step.wellFormed {event : Event μ} (hstep : Step toSendBuffer r event r')
    (h : r.WellFormed) : r'.WellFormed := by
  cases hstep with
  | process message =>
      refine ⟨h.nodup, h.below, h.inOrder, ?_, ?_⟩
      · intro number session hsession
        simp [TcpRoute.process, h.turns number session hsession, Task.isTurnOf]
      · intro number hmem
        exact h.posters number (by simpa [TcpRoute.process] using hmem)
  | broadcast reached htasks =>
      apply (h.dropProcess htasks).giveAll
      intro given hgiven
      obtain ⟨number, hnumber, rfl⟩ := List.mem_map.mp hgiven
      exact h.below number (List.mem_of_mem_take hnumber)
  | @turn number session session' rest reached htasks hsession hturn =>
      have hinOrder := h.inOrder number session hsession
      have hposted := posted_of_turn hinOrder hturn
      have hturns := h.turns number session hsession
      refine h.set hsession ((Session.step_cases hinOrder.front hturn).inOrder hinOrder)
        (by rw [htasks]; exact List.sublist_cons_self _ _) ?_ ?_
      · rw [htasks, List.countP_cons] at hturns
        simp only [Task.isTurnOf, beq_self_eq_true, if_true] at hturns
        omega
      · intro other hother
        simp [htasks, Task.isTurnOf, Ne.symm hother]
  | @written number i error session session' hsession hwritten =>
      have hinOrder := h.inOrder number session hsession
      refine h.set hsession ((Session.step_cases hinOrder.front hwritten).inOrder hinOrder)
        (List.Sublist.refl _) ?_ fun _ _ => rfl
      rw [posted_of_written hinOrder hwritten, h.turns number session hsession]
  | refused => exact ⟨h.nodup, h.below, h.inOrder, h.turns, h.posters⟩
  | left place haccepting hasked =>
      apply (h.addSession _).giveAll
      intro given hgiven
      obtain ⟨message, -, rfl⟩ := List.mem_map.mp hgiven
      simp
  | @accepted greetings asked place haccepting hasked hplace =>
      have hgiven : (giveAll toSendBuffer
          { r with sessions := r.sessions ++ [Session.create] }
          (greetings.map fun message => (r.sessions.length, message))).WellFormed := by
        apply (h.addSession _).giveAll
        intro given hgiven
        obtain ⟨message, -, rfl⟩ := List.mem_map.mp hgiven
        simp
      have hperm := List.perm_insertIdx r.sessions.length r.order hplace
      rw [giveAll_eq] at hgiven ⊢
      refine ⟨?_, ?_, hgiven.inOrder, hgiven.turns, hgiven.posters⟩
      · rw [hperm.nodup_iff, List.nodup_cons]
        exact ⟨fun hmem => Nat.lt_irrefl _ (h.below _ hmem), h.nodup⟩
      · intro number hmem
        rcases List.mem_cons.mp (hperm.mem_iff.mp hmem) with rfl | hold
        · simp
        · have hlt := h.below number hold
          simp
          omega

theorem wellFormed_run {events : List (Event μ)}
    (hrun : Machine.run (step toSendBuffer) create events = some r) : r.WellFormed :=
  Machine.invariant_run WellFormed (C := fun _ _ => True)
    (fun _ _ _ h _ hstep => (step_cases hstep).wellFormed h) wellFormed_create
    (Machine.meets_true _ _) hrun

/-! ## What a session is given -/

/-- The message that an event gives to the route. -/
def Event.message : Event μ → Option μ
  | .process message => some message
  | .turn _ | .accepted _ _ _ _ | .written _ _ _ => none

/-- The event makes a session. -/
def Event.connects : Event μ → Bool
  | .accepted error _ _ _ => !error
  | .process _ | .turn _ | .written _ _ _ => false

/-- The messages whose task did not run yet. -/
def pending (r : TcpRoute μ) : List μ := r.tasks.filterMap Task.message

/-- A task that hands a message to the sessions finds all of them connected. -/
def ReachesAll (r : TcpRoute μ) : Event μ → Prop
  | .turn reached => (r.tasks.head?.bind Task.message).isSome → r.order.length ≤ reached
  | .process _ | .accepted _ _ _ _ | .written _ _ _ => True

instance (r : TcpRoute μ) : ∀ event, Decidable (r.ReachesAll event)
  | .turn _ => inferInstanceAs (Decidable (_ → _))
  | .process _ | .accepted _ _ _ _ | .written _ _ _ => inferInstanceAs (Decidable True)

/-- After these events the session was given what the monitors greeted it with, and then
the messages that were given to the route from some point before its acceptance on,
without those whose task did not run yet. -/
def GivenTo (toSendBuffer : μ → List UInt8) (events : List (Event μ)) (r : TcpRoute μ)
    (number : ℕ) (session : Session) : Prop :=
  ∃ before after greetings asked place start,
    events = before ++ .accepted false greetings asked place :: after ∧
      number = before.countP Event.connects ∧
      start ≤ (before.filterMap Event.message).length ∧
      session.processed.map Buffer.encoded ++ r.pending.map (Session.encode toSendBuffer) =
        (greetings ++ (events.filterMap Event.message).drop start).map
          (Session.encode toSendBuffer)

/-- What holds after these events of all sessions of the set. -/
structure Complete (toSendBuffer : μ → List UInt8) (events : List (Event μ))
    (r : TcpRoute μ) : Prop where
  count : r.sessions.length = events.countP Event.connects
  routed : ∃ done, events.filterMap Event.message = done ++ r.pending
  given : ∀ number ∈ r.order, ∃ session, r.sessions[number]? = some session ∧
    GivenTo toSendBuffer events r number session

theorem complete_create : Complete toSendBuffer [] (create : TcpRoute μ) where
  count := rfl
  routed := ⟨[], rfl⟩
  given := by simp [create, start]

variable {events : List (Event μ)}

/-- An event that gives the route no message leaves what a session was given, if it gives
the session nothing either and no task takes a message. -/
theorem GivenTo.quiet {number : ℕ} {session session' : Session} {event : Event μ}
    (h : GivenTo toSendBuffer events r number session) (hmessage : event.message = none)
    (hpending : r'.pending = r.pending)
    (hprocessed : session'.processed.map Buffer.encoded =
      session.processed.map Buffer.encoded) :
    GivenTo toSendBuffer (events ++ [event]) r' number session' := by
  obtain ⟨before, after, greetings, asked, place, start, hsplit, hnumber, hstart, hgiven⟩ := h
  refine ⟨before, after ++ [event], greetings, asked, place, start, by simp [hsplit],
    hnumber, hstart, ?_⟩
  rw [hprocessed, hpending, Machine.filterMap_concat_none hmessage, hgiven]

/-- A message that is given to the route waits for its task. -/
theorem GivenTo.process {number : ℕ} {session : Session} (message : μ)
    (h : GivenTo toSendBuffer events r number session) :
    GivenTo toSendBuffer (events ++ [.process message]) (r.process message) number
      session := by
  obtain ⟨before, after, greetings, asked, place, start, hsplit, hnumber, hstart, hgiven⟩ := h
  refine ⟨before, after ++ [.process message], greetings, asked, place, start,
    by simp [hsplit], hnumber, hstart, ?_⟩
  have hle : start ≤ (events.filterMap Event.message).length := by
    rw [hsplit, List.filterMap_append, List.length_append]
    omega
  have hevents : (events ++ [Event.process message]).filterMap Event.message =
      events.filterMap Event.message ++ [message] := by
    rw [List.filterMap_append]
    rfl
  have hpending : (r.process message).pending = r.pending ++ [message] := by
    simp [pending, TcpRoute.process, Task.message]
  rw [hevents, hpending, List.drop_append_of_le_length hle, List.map_append,
    ← List.append_assoc, hgiven]
  simp only [List.map_append, List.append_assoc]

/-- A task that reaches a session gives it the message that was pending first. -/
theorem GivenTo.reached {number reached : ℕ} {session : Session} {message : μ}
    (h : GivenTo toSendBuffer events r number session)
    (hpending : r.pending = message :: r'.pending) :
    GivenTo toSendBuffer (events ++ [.turn reached]) r' number
      (processAll toSendBuffer [message] session) := by
  obtain ⟨before, after, greetings, asked, place, start, hsplit, hnumber, hstart, hgiven⟩ := h
  refine ⟨before, after ++ [.turn reached], greetings, asked, place, start,
    by simp [hsplit], hnumber, hstart, ?_⟩
  rw [Machine.filterMap_concat_none rfl, processAll_processed, ← hgiven, hpending]
  simp

/-- A session that is accepted was given its greetings, and waits for the messages that
are pending. -/
theorem givenTo_accepted (hcount : r.sessions.length = events.countP Event.connects)
    (hrouted : ∃ done, events.filterMap Event.message = done ++ r.pending)
    (hpending : r'.pending = r.pending) (greetings : List μ) (asked place : ℕ) :
    GivenTo toSendBuffer (events ++ [.accepted false greetings asked place]) r'
      r.sessions.length (processAll toSendBuffer greetings Session.create) := by
  obtain ⟨done, hdone⟩ := hrouted
  refine ⟨events, [], greetings, asked, place, done.length, rfl, hcount, ?_, ?_⟩
  · rw [hdone, List.length_append]
    omega
  · rw [Machine.filterMap_concat_none rfl, processAll_processed, hpending, hdone,
      List.drop_left, List.map_append]
    rfl

theorem pending_giveAll (r : TcpRoute μ) (gives : List (ℕ × μ)) :
    (giveAll toSendBuffer r gives).pending = r.pending := by
  have hnone : (gives.map fun given => (Task.turn given.1 : Task μ)).filterMap
      Task.message = [] := by
    rw [List.filterMap_eq_nil_iff]
    rintro task hmem
    obtain ⟨given, -, rfl⟩ := List.mem_map.mp hmem
    rfl
  rw [giveAll_eq, pending, List.filterMap_append, hnone, List.append_nil]
  rfl

/-- Giving messages to a new session leaves the others as they are. -/
theorem getElem?_giveAll_new {greetings : List μ} {number : ℕ} {session : Session}
    (r : TcpRoute μ) (accepting : ℕ) (h : r.sessions[number]? = some session) :
    (giveAll toSendBuffer
        { r with accepting := accepting, sessions := r.sessions ++ [Session.create] }
        (greetings.map fun message => (r.sessions.length, message))).sessions[number]? =
      some session := by
  have hlt := (List.getElem?_eq_some_iff.mp h).1
  rw [giveAll_eq, List.getElem?_mapIdx, List.getElem?_append_left hlt, h,
    messagesTo_greetings, if_neg (Nat.ne_of_gt hlt)]
  rfl

theorem getElem?_giveAll_self (greetings : List μ) (r : TcpRoute μ) (accepting : ℕ) :
    (giveAll toSendBuffer
        { r with accepting := accepting, sessions := r.sessions ++ [Session.create] }
        (greetings.map fun message =>
          (r.sessions.length, message))).sessions[r.sessions.length]? =
      some (processAll toSendBuffer greetings Session.create) := by
  rw [giveAll_eq, List.getElem?_mapIdx, List.getElem?_concat_length, messagesTo_greetings,
    if_pos rfl]
  rfl

theorem length_sessions_giveAll (r : TcpRoute μ) (gives : List (ℕ × μ)) :
    (giveAll toSendBuffer r gives).sessions.length = r.sessions.length := by
  rw [giveAll_eq, List.length_mapIdx]

theorem order_giveAll (r : TcpRoute μ) (gives : List (ℕ × μ)) :
    (giveAll toSendBuffer r gives).order = r.order := by
  rw [giveAll_eq]

/-- A change of one session that processes no message. -/
theorem Complete.set (h : Complete toSendBuffer events r) {number : ℕ}
    {session session' : Session} (hsession : r.sessions[number]? = some session)
    (hprocessed : session'.processed.map Buffer.encoded =
      session.processed.map Buffer.encoded)
    {tasks : List (Task μ)} (hpending : tasks.filterMap Task.message = r.pending)
    {event : Event μ} (hmessage : event.message = none) (hconnects : event.connects = false) :
    Complete toSendBuffer (events ++ [event])
      { r with tasks := tasks, sessions := r.sessions.set number session' } where
  count := by simp [h.count, hconnects]
  routed := by
    rw [Machine.filterMap_concat_none hmessage, pending, hpending]
    exact h.routed
  given := by
    intro other hmem
    obtain ⟨old, hold, hgiven⟩ := h.given other hmem
    by_cases heq : number = other
    · subst heq
      rw [hsession, Option.some.injEq] at hold
      subst hold
      exact ⟨session', List.getElem?_set_self (List.getElem?_eq_some_iff.mp hsession).1,
        hgiven.quiet hmessage hpending hprocessed⟩
    · exact ⟨old, (List.getElem?_set_ne heq).trans hold, hgiven.quiet hmessage hpending rfl⟩

theorem processed_of_step {session session' : Session} (h : session.InOrder)
    {event : Session.Event μ} (hstep : session.step toSendBuffer event = some session')
    (hnone : event.messages = []) :
    session'.processed.map Buffer.encoded = session.processed.map Buffer.encoded := by
  rw [(Session.step_cases h.front hstep).processed_encoded, hnone, List.map_nil,
    List.append_nil]

theorem Complete.process (h : Complete toSendBuffer events r) (message : μ) :
    Complete toSendBuffer (events ++ [.process message]) (r.process message) where
  count := by simp [TcpRoute.process, h.count, Event.connects]
  routed := by
    obtain ⟨done, hdone⟩ := h.routed
    refine ⟨done, ?_⟩
    simp [pending, TcpRoute.process, Task.message, Event.message, hdone]
  given := by
    intro number hmem
    obtain ⟨session, hsession, hgiven⟩ := h.given number hmem
    exact ⟨session, hsession, hgiven.process message⟩

/-- A message whose task reaches all sessions is given to each session of the set. -/
theorem Complete.broadcast (h : Complete toSendBuffer events r) (hformed : r.WellFormed)
    {message : μ} {rest : List (Task μ)} {reached : ℕ}
    (htasks : r.tasks = .process message :: rest) (hreached : r.order.length ≤ reached) :
    Complete toSendBuffer (events ++ [.turn reached])
      (giveAll toSendBuffer { r with tasks := rest }
        ((r.order.take reached).map fun number => (number, message))) := by
  have hpending : r.pending = message :: rest.filterMap Task.message := by
    rw [pending, htasks]
    rfl
  refine ⟨?_, ?_, ?_⟩
  · rw [length_sessions_giveAll, h.count, List.countP_append]
    rfl
  · obtain ⟨done, hdone⟩ := h.routed
    refine ⟨done ++ [message], ?_⟩
    rw [Machine.filterMap_concat_none rfl, hdone, hpending, pending_giveAll, List.append_assoc]
    rfl
  · intro number hmem
    rw [order_giveAll] at hmem
    obtain ⟨session, hsession, hgiven⟩ := h.given number hmem
    refine ⟨processAll toSendBuffer [message] session, ?_, hgiven.reached ?_⟩
    · rw [giveAll_eq, List.getElem?_mapIdx, hsession, List.take_of_length_le hreached,
        messagesTo_broadcast hformed.nodup, if_pos hmem]
      rfl
    · rw [pending_giveAll, hpending]
      rfl

theorem Complete.refused (h : Complete toSendBuffer events r) (greetings : List μ)
    (asked place accepting : ℕ) :
    Complete toSendBuffer (events ++ [.accepted true greetings asked place])
      { r with accepting := accepting } where
  count := by
    rw [List.countP_append]
    exact h.count
  routed := by
    rw [Machine.filterMap_concat_none rfl]
    exact h.routed
  given := by
    intro number hmem
    obtain ⟨session, hsession, hgiven⟩ := h.given number hmem
    exact ⟨session, hsession, hgiven.quiet rfl rfl rfl⟩

/-- A session that is made, whether it comes into the set or not: the sessions of the set
were given what they were given before. -/
theorem Complete.connected (h : Complete toSendBuffer events r)
    (greetings given : List μ) (asked place accepting : ℕ) :
    Complete toSendBuffer (events ++ [.accepted false greetings asked place])
      (giveAll toSendBuffer
        { r with accepting := accepting, sessions := r.sessions ++ [Session.create] }
        (given.map fun message => (r.sessions.length, message))) where
  count := by
    rw [length_sessions_giveAll, List.length_append, h.count, List.countP_append]
    rfl
  routed := by
    rw [Machine.filterMap_concat_none rfl, pending_giveAll]
    exact h.routed
  given := by
    intro number hmem
    rw [order_giveAll] at hmem
    obtain ⟨session, hsession, hgiven⟩ := h.given number hmem
    exact ⟨session, getElem?_giveAll_new r _ hsession,
      hgiven.quiet rfl (pending_giveAll _ _) rfl⟩

/-- A session that comes into the set was given its greetings. -/
theorem Complete.accepted (h : Complete toSendBuffer events r) {greetings : List μ}
    {asked place : ℕ} (hplace : place ≤ r.order.length) :
    Complete toSendBuffer (events ++ [.accepted false greetings asked place])
      { giveAll toSendBuffer
          { r with sessions := r.sessions ++ [Session.create] }
          (greetings.map fun message => (r.sessions.length, message)) with
        order := r.order.insertIdx place r.sessions.length } := by
  have hpending : (giveAll toSendBuffer { r with sessions := r.sessions ++ [Session.create] }
      (greetings.map fun message => (r.sessions.length, message))).pending = r.pending :=
    pending_giveAll _ _
  obtain ⟨hcount, hrouted, hold⟩ := h.connected greetings greetings asked place r.accepting
  refine ⟨hcount, hrouted, fun number hmem => ?_⟩
  have hperm := List.perm_insertIdx r.sessions.length r.order hplace
  rcases List.mem_cons.mp (hperm.mem_iff.mp hmem) with rfl | hmem
  · refine ⟨_, getElem?_giveAll_self greetings r _, ?_⟩
    exact givenTo_accepted h.count h.routed hpending greetings asked place
  · rw [order_giveAll] at hold
    exact hold number hmem

theorem Step.complete {event : Event μ} (hstep : Step toSendBuffer r event r')
    (hformed : r.WellFormed) (hreaches : r.ReachesAll event)
    (h : Complete toSendBuffer events r) : Complete toSendBuffer (events ++ [event]) r' := by
  cases hstep with
  | process message => exact h.process message
  | broadcast reached htasks =>
      exact h.broadcast hformed htasks (hreaches (by rw [htasks]; rfl))
  | @turn number session session' rest reached htasks hsession hturn =>
      have hpending : rest.filterMap Task.message = r.pending := by
        rw [pending, htasks]
        rfl
      exact h.set hsession (processed_of_step (hformed.inOrder number session hsession) hturn
        rfl) hpending rfl rfl
  | @written number i error session session' hsession hwritten =>
      exact h.set hsession (processed_of_step (hformed.inOrder number session hsession)
        hwritten rfl) rfl rfl rfl
  | refused greetings asked place => exact h.refused greetings asked place _
  | left place => exact h.connected _ _ _ place _
  | accepted haccepting hasked hplace => exact h.accepted hplace

/-! ## Whole runs -/

/-- The event ends the accepting of connections: an accept failed, or the socket that was
accepted did not know its remote endpoint. -/
def Event.endsAccepting : Event μ → Bool
  | .accepted error greetings asked _ => error || decide (asked ≤ greetings.length)
  | .process _ | .turn _ | .written _ _ _ => false

theorem accepting_run (hrun : Machine.run (step toSendBuffer) create events = some r) :
    r.accepting + events.countP Event.endsAccepting = 1 := by
  refine Machine.run_history
    (fun events r => r.accepting + events.countP Event.endsAccepting = 1) rfl ?_ hrun
  intro es mid event last h hstep
  rw [List.countP_append]
  cases step_cases hstep with
  | process | turn | written => exact h
  | broadcast =>
      rw [giveAll_eq]
      exact h
  | refused greetings asked place haccepting =>
      simp only [Event.endsAccepting, Bool.true_or, List.countP_singleton, if_true]
      omega
  | left place haccepting hasked =>
      rw [giveAll_eq]
      simp only [Event.endsAccepting, Bool.false_or, List.countP_singleton,
        decide_eq_true hasked, if_true]
      omega
  | accepted haccepting hasked hplace =>
      rw [giveAll_eq]
      simp only [Event.endsAccepting, Bool.false_or, List.countP_singleton,
        decide_eq_true_eq, if_neg (Nat.not_le_of_gt hasked)]
      exact h

/-- The task that a session posted finds a buffer to queue. -/
theorem WellFormed.exists_turn (h : r.WellFormed) (htasks : r.tasks ≠ []) (reached : ℕ) :
    ∃ r', r.step toSendBuffer (.turn reached) = some r' := by
  apply Option.isSome_iff_exists.mp
  obtain ⟨task, rest, hcons⟩ := List.exists_cons_of_ne_nil htasks
  rcases task with message | number
  · simp only [step, hcons, Option.isSome_some]
  · have hlt := h.posters number (by simp [hcons])
    have hsession := List.getElem?_eq_getElem hlt
    have hposted : 0 < r.sessions[number].posted.length := by
      rw [h.turns number _ hsession, hcons]
      simp [Task.isTurnOf]
    obtain ⟨eb, posted, heq⟩ := List.exists_cons_of_length_pos hposted
    simp only [step, hcons, stepSession, hsession, Session.step, heq, Option.map_some,
      Option.isSome_some]

/-- In every run a route waits for one connection at a time until an accept fails or the
accepted socket does not know its remote endpoint, and for none afterwards; the oldest
task can always run. -/
theorem accepts_untilFailure
    (hrun : Machine.run (step toSendBuffer) create events = some r) :
    r.accepting + events.countP Event.endsAccepting = 1 ∧
      (r.tasks ≠ [] → ∀ reached, ∃ r', r.step toSendBuffer (.turn reached) = some r') :=
  ⟨accepting_run hrun, (wellFormed_run hrun).exists_turn⟩

theorem complete_run (hmeets : Machine.Meets (step toSendBuffer) ReachesAll create events)
    (hrun : Machine.run (step toSendBuffer) create events = some r) :
    Complete toSendBuffer events r := by
  have hboth := Machine.run_history_of_meets
    (fun events r => r.WellFormed ∧ Complete toSendBuffer events r)
    (C := ReachesAll) ⟨wellFormed_create, complete_create⟩ ?_ hmeets hrun
  · exact hboth.2
  · rintro es mid event last ⟨hformed, hcomplete⟩ hreaches hstep
    have hcases := step_cases hstep
    exact ⟨hcases.wellFormed hformed, hcases.complete hformed hreaches hcomplete⟩

/-- If every task that hands a message to the sessions finds all of them connected, each
session of the set hands to `async_write`, in this order and each one once, what the
monitors greeted it with and the messages that were given to the route after it was
accepted, with those before that were still pending; what was not handed over yet is
queued, posted or pending. -/
theorem messages_complete
    (hmeets : Machine.Meets (step toSendBuffer) ReachesAll create events)
    (hrun : Machine.run (step toSendBuffer) create events = some r) :
    ∀ number ∈ r.order, ∃ session before after greetings asked place start,
      r.sessions[number]? = some session ∧
        events = before ++ .accepted false greetings asked place :: after ∧
        number = before.countP Event.connects ∧
        start ≤ (before.filterMap Event.message).length ∧
        session.handed.Nodup ∧
        (session.handed ++ session.waiting ++ session.posted).map Buffer.encoded ++
            r.pending.map (Session.encode toSendBuffer) =
          (greetings ++ (events.filterMap Event.message).drop start).map
            (Session.encode toSendBuffer) := by
  intro number hmem
  obtain ⟨session, hsession, before, after, greetings, asked, place, start, hsplit,
    hnumber, hstart, hgiven⟩ := (complete_run hmeets hrun).given number hmem
  have hinOrder := (wellFormed_run hrun).inOrder number session hsession
  refine ⟨session, before, after, greetings, asked, place, start, hsession, hsplit,
    hnumber, hstart, ?_, ?_⟩
  · exact hinOrder.ledger.handed_sublist.nodup hinOrder.numbered.nodup
  · rw [show _ = session.processed from hinOrder.ledger, hgiven]

/-- Two sessions, a message that was given to the route before the second one was
accepted but handed over afterwards, and one that came later. -/
def twoSessionsRun : List (Event UInt8) :=
  [.accepted false [7] 2 0, .process 1, .accepted false [] 1 0, .turn 0, .turn 2,
    .process 2, .turn 2, .turn 2, .turn 2]

theorem accepts_untilFailure_twoSessionsRun :
    ∃ r, Machine.run (step fun message : UInt8 => [message]) create twoSessionsRun =
        some r ∧
      r.accepting + twoSessionsRun.countP Event.endsAccepting = 1 := by
  obtain ⟨r, hrun⟩ : ∃ r, Machine.run (step fun message : UInt8 => [message]) create
      twoSessionsRun = some r :=
    Option.isSome_iff_exists.mp (by decide)
  exact ⟨r, hrun, (accepts_untilFailure hrun).1⟩

theorem messages_complete_twoSessionsRun :
    ∃ r, Machine.run (step fun message : UInt8 => [message]) create twoSessionsRun =
        some r ∧
      ∀ number ∈ r.order, ∃ session, r.sessions[number]? = some session ∧
        session.handed.Nodup := by
  obtain ⟨r, hrun⟩ : ∃ r, Machine.run (step fun message : UInt8 => [message]) create
      twoSessionsRun = some r :=
    Option.isSome_iff_exists.mp (by decide)
  refine ⟨r, hrun, fun number hmem => ?_⟩
  obtain ⟨session, -, -, -, -, -, -, hsession, -, -, -, hnodup, -⟩ :=
    messages_complete (by decide) hrun number hmem
  exact ⟨session, hsession, hnodup⟩

end TcpRoute
end Airmap.Mavlink.Boost
