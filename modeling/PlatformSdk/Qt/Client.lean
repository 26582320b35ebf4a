import Mathlib.Logic.Function.Basic
import PlatformSdk.Machine.Loop
import PlatformSdk.Machine.Simulation
import PlatformSdk.Machine.Subscribers

/-!
# The client for Qt applications

`qt::Client` stands between the thread of an application and the native client, which
runs on a thread of its own.  A `Dispatcher` posts each call to the `io_service` of the
native client and each callback to the event loop of Qt.  The module follows requests,
callbacks and traffic updates through the two loops.  It leaves out
`Telemetry::submit_updates`, which has no callback: its task keeps an `initializer_list`
whose elements are gone when the native loop runs it.
-/

namespace Airmap.Qt

open Machine

variable {ρ α ς υ : Type*}

/-- A task that was dispatched to Qt: the callback of a request with its result, the
callback of a request for a monitor, or a task of a `Traffic::Monitor`. -/
inductive Task (α ς υ : Type*) where
  | callback (number : ℕ) (result : α)
  | monitorCallback (number monitor : ℕ)
  | subscribe (monitor : ℕ) (subscriber : ς)
  | unsubscribe (monitor : ℕ) (subscriber : ς)
  | handleUpdate (monitor : ℕ) (update : υ)

/-- A call that the event loop of Qt makes: of a callback, or of a subscriber. -/
inductive Output (α ς υ : Type*) where
  | called (number : ℕ) (result : α)
  | monitored (number monitor : ℕ)
  | handled (monitor : ℕ) (subscriber : ς) (update : υ)

/-- The side of Qt: `subscribers_` of each monitor, and the calls made so far. -/
structure QtSide (α ς υ : Type*) where
  subscribers : ℕ → List ς := fun _ => []
  outputs : List (Output α ς υ) := []

/-- `Dispatcher::Event::dispatch`, which runs the task. -/
def QtSide.dispatch [DecidableEq ς] (s : QtSide α ς υ) : Task α ς υ → QtSide α ς υ
  | .callback number result => { s with outputs := s.outputs ++ [.called number result] }
  | .monitorCallback number monitor =>
      { s with outputs := s.outputs ++ [.monitored number monitor] }
  | .subscribe monitor subscriber =>
      { s with
        subscribers := Function.update s.subscribers monitor
          (insertSubscriber subscriber (s.subscribers monitor)) }
  | .unsubscribe monitor subscriber =>
      { s with
        subscribers := Function.update s.subscribers monitor
          ((s.subscribers monitor).erase subscriber) }
  | .handleUpdate monitor update =>
      { s with
        outputs := s.outputs ++ (s.subscribers monitor).map fun subscriber =>
          .handled monitor subscriber update }

/-- `qt::Client` with its dispatcher and the native client.  Requests are numbered in the
order in which they are made, monitors in the order in which they are created. -/
structure Client (ρ α ς υ : Type*) where
  requests : ℕ := 0
  toNative : List (ρ × ℕ) := []
  /-- The requests that were made of the native client. -/
  native : List (ρ × ℕ) := []
  monitors : ℕ := 0
  toQt : Loop (Task α ς υ) (QtSide α ς υ) := { state := {} }

namespace Client

/-- What can happen: the application makes a request of the client, subscribes to a
monitor that it was given or unsubscribes; one of the loops runs its oldest task; the
native client calls back with a result or with a monitor, to which a new Qt monitor is
subscribed; a native monitor has an update. -/
inductive Event (ρ α ς υ : Type*) where
  | call (request : ρ)
  | subscribe (monitor : ℕ) (subscriber : ς)
  | unsubscribe (monitor : ℕ) (subscriber : ς)
  | turnNative
  | turnQt
  | answer (number : ℕ) (result : α)
  | monitored (number monitor : ℕ)
  | update (monitor : ℕ) (update : υ)

/-- The task that an event dispatches to Qt. -/
def Event.post : Event ρ α ς υ → Option (Task α ς υ)
  | .call _ | .turnNative | .turnQt => none
  | .subscribe monitor subscriber => some (.subscribe monitor subscriber)
  | .unsubscribe monitor subscriber => some (.unsubscribe monitor subscriber)
  | .answer number result => some (.callback number result)
  | .monitored number monitor => some (.monitorCallback number monitor)
  | .update monitor news => some (.handleUpdate monitor news)

/-- The request that an event makes. -/
def Event.request : Event ρ α ς υ → Option ρ
  | .call request => some request
  | _ => none

/-- The application was given the monitor. -/
def Knows (c : Client ρ α ς υ) (monitor : ℕ) : Prop :=
  ∃ number, .monitored number monitor ∈ c.toQt.state.outputs

/-- The output gives the application this monitor. -/
def Output.gives (monitor : ℕ) : Output α ς υ → Bool
  | .monitored _ monitor' => monitor' == monitor
  | .called _ _ | .handled _ _ _ => false

def dispatchToQt (task : Task α ς υ) (c : Client ρ α ς υ) : Client ρ α ς υ :=
  { c with toQt := c.toQt.post task }

def dispatchToNative (request : ρ) (c : Client ρ α ς υ) : Client ρ α ς υ :=
  { c with requests := c.requests + 1, toNative := c.toNative ++ [(request, c.requests)] }

variable [DecidableEq ς]

def step (c : Client ρ α ς υ) : Event ρ α ς υ → Option (Client ρ α ς υ)
  | .call request => some (c.dispatchToNative request)
  | .turnNative =>
      match c.toNative with
      | [] => none
      | request :: rest => some { c with toNative := rest, native := c.native ++ [request] }
  | .turnQt =>
      match c.toQt.turn QtSide.dispatch with
      | none => none
      | some toQt => some { c with toQt := toQt }
  | .subscribe monitor subscriber =>
      if c.toQt.state.outputs.any (Output.gives monitor) then
        some (c.dispatchToQt (.subscribe monitor subscriber))
      else none
  | .unsubscribe monitor subscriber =>
      if c.toQt.state.outputs.any (Output.gives monitor) then
        some (c.dispatchToQt (.unsubscribe monitor subscriber))
      else none
  | .answer number result =>
      if number ∈ c.native.map Prod.snd then some (c.dispatchToQt (.callback number result))
      else none
  | .monitored number monitor =>
      if number ∈ c.native.map Prod.snd ∧ monitor = c.monitors then
        some ({ c with monitors := c.monitors + 1 }.dispatchToQt
          (.monitorCallback number monitor))
      else none
  | .update monitor update =>
      if monitor < c.monitors then some (c.dispatchToQt (.handleUpdate monitor update))
      else none

/-- A client that was just created. -/
def create : Client ρ α ς υ := {}

/-! ## What one step does -/

variable {c c' : Client ρ α ς υ}

/-- The steps of a client: a call goes to the native loop, a task of this loop reaches
the native client, some task is posted to Qt, or a task of Qt runs. -/
inductive Step (c : Client ρ α ς υ) : Event ρ α ς υ → Client ρ α ς υ → Prop where
  | call (request : ρ) : Step c (.call request) (c.dispatchToNative request)
  | turnNative {request : ρ × ℕ} {rest : List (ρ × ℕ)}
      (hqueue : c.toNative = request :: rest) :
      Step c .turnNative { c with toNative := rest, native := c.native ++ [request] }
  | turnQt {task : Task α ς υ} {rest : List (Task α ς υ)}
      (hqueue : c.toQt.queue = task :: rest) :
      Step c .turnQt
        { c with
          toQt := { c.toQt with queue := rest, state := c.toQt.state.dispatch task } }
  | post {event : Event ρ α ς υ} {task : Task α ς υ} (monitors : ℕ)
      (hpost : event.post = some task) (hrequest : event.request = none)
      (hknows : ∀ monitor subscriber, task = .subscribe monitor subscriber →
        c.Knows monitor) :
      Step c event ({ c with monitors := monitors }.dispatchToQt task)

omit [DecidableEq ς] in
theorem knows_of_any {monitor : ℕ}
    (h : c.toQt.state.outputs.any (Output.gives monitor) = true) : c.Knows monitor := by
  obtain ⟨output, hmem, hgives⟩ := List.any_eq_true.mp h
  rcases output with ⟨number, result⟩ | ⟨number, monitor'⟩ | ⟨monitor', subscriber, update⟩
  · cases hgives
  · cases beq_iff_eq.mp hgives
    exact ⟨number, hmem⟩
  · cases hgives

theorem step_cases {event : Event ρ α ς υ} (hstep : c.step event = some c') :
    Step c event c' := by
  rcases event with request | ⟨monitor, subscriber⟩ | ⟨monitor, subscriber⟩ | - | - |
    ⟨number, result⟩ | ⟨number, monitor⟩ | ⟨monitor, update⟩
  · cases hstep
    exact .call request
  · simp only [step] at hstep
    split at hstep
    · next hknows =>
        cases hstep
        refine .post c.monitors rfl rfl ?_
        rintro _ _ ⟨⟩
        exact knows_of_any hknows
    · cases hstep
  · simp only [step] at hstep
    split at hstep
    · cases hstep
      exact .post c.monitors rfl rfl (by simp)
    · cases hstep
  · simp only [step] at hstep
    split at hstep
    · cases hstep
    · next request rest hqueue =>
        cases hstep
        exact .turnNative hqueue
  · simp only [step, Loop.turn] at hstep
    split at hstep
    · cases hstep
    · next toQt hturn =>
        split at hturn
        · cases hturn
        · next task rest hqueue =>
            cases hturn
            cases hstep
            exact .turnQt hqueue
  · simp only [step] at hstep
    split at hstep
    · cases hstep
      exact .post c.monitors rfl rfl (by simp)
    · cases hstep
  · simp only [step] at hstep
    split at hstep
    · cases hstep
      exact .post (c.monitors + 1) rfl rfl (by simp)
    · cases hstep
  · simp only [step] at hstep
    split at hstep
    · cases hstep
      exact .post c.monitors rfl rfl (by simp)
    · cases hstep

/-! ## The side of Qt -/

end Client

section Dispatch

variable [DecidableEq ς]

/-- What a task does with the subscribers of a monitor. -/
def Task.operationOn (monitor : ℕ) : Task α ς υ → Option (Operation ς υ)
  | .callback _ _ | .monitorCallback _ _ => none
  | .subscribe monitor' subscriber =>
      if monitor' = monitor then some (.subscribe subscriber) else none
  | .unsubscribe monitor' subscriber =>
      if monitor' = monitor then some (.unsubscribe subscriber) else none
  | .handleUpdate monitor' update =>
      if monitor' = monitor then some (.publish update) else none

/-- What a subscriber of a monitor is handed by an output. -/
def Output.handledBy (monitor : ℕ) : Output α ς υ → Option (ς × υ)
  | .called _ _ | .monitored _ _ => none
  | .handled monitor' subscriber update =>
      if monitor' = monitor then some (subscriber, update) else none

/-- The result that a task calls back with. -/
def Task.resultOf (number : ℕ) : Task α ς υ → Option α
  | .callback number' result => if number' = number then some result else none
  | .monitorCallback _ _ | .subscribe _ _ | .unsubscribe _ _ | .handleUpdate _ _ => none

/-- The result that an output calls back with. -/
def Output.resultOf (number : ℕ) : Output α ς υ → Option α
  | .called number' result => if number' = number then some result else none
  | .monitored _ _ | .handled _ _ _ => none

omit [DecidableEq ς] in
theorem filterMap_handledBy (monitor monitor' : ℕ) (subscribers : List ς) (update : υ) :
    (subscribers.map fun subscriber =>
        (Output.handled monitor' subscriber update : Output α ς υ)).filterMap
          (Output.handledBy monitor) =
      if monitor' = monitor then subscribers.map fun subscriber => (subscriber, update)
      else [] := by
  by_cases h : monitor' = monitor
  · simp [List.filterMap_map, Function.comp_def, Output.handledBy, h]
  · simp [List.filterMap_map, Function.comp_def, Output.handledBy, h]

/-- A task changes the subscribers of its own monitor, and hands them its update. -/
theorem dispatch_monitor (s : QtSide α ς υ) (task : Task α ς υ) (monitor : ℕ) :
    ((s.dispatch task).subscribers monitor,
        (s.dispatch task).outputs.filterMap (Output.handledBy monitor)) =
      match task.operationOn monitor with
      | none => (s.subscribers monitor, s.outputs.filterMap (Output.handledBy monitor))
      | some operation =>
          ((operate (s.subscribers monitor) operation).1,
            s.outputs.filterMap (Output.handledBy monitor) ++
              (operate (s.subscribers monitor) operation).2) := by
  rcases task with ⟨number, result⟩ | ⟨number, monitor'⟩ | ⟨monitor', subscriber⟩ |
    ⟨monitor', subscriber⟩ | ⟨monitor', update⟩
  · simp [QtSide.dispatch, Task.operationOn, Output.handledBy]
  · simp [QtSide.dispatch, Task.operationOn, Output.handledBy]
  · by_cases h : monitor' = monitor
    · subst h
      simp [QtSide.dispatch, Task.operationOn, operate]
    · simp [QtSide.dispatch, Task.operationOn, h, Function.update_of_ne (Ne.symm h)]
  · by_cases h : monitor' = monitor
    · subst h
      simp [QtSide.dispatch, Task.operationOn, operate]
    · simp [QtSide.dispatch, Task.operationOn, h, Function.update_of_ne (Ne.symm h)]
  · by_cases h : monitor' = monitor
    · subst h
      simp only [QtSide.dispatch, Task.operationOn, operate, List.filterMap_append,
        filterMap_handledBy, if_true]
    · simp only [QtSide.dispatch, Task.operationOn, List.filterMap_append,
        filterMap_handledBy, if_neg h, List.append_nil]

/-- The subscribers of a monitor, and what they were handed, are those of the operations
on this monitor. -/
theorem foldl_dispatch_monitor (s : QtSide α ς υ) (tasks : List (Task α ς υ))
    (monitor : ℕ) :
    ((tasks.foldl QtSide.dispatch s).subscribers monitor,
        (tasks.foldl QtSide.dispatch s).outputs.filterMap (Output.handledBy monitor)) =
      ((feed operate (s.subscribers monitor) (tasks.filterMap (Task.operationOn monitor))).1,
        s.outputs.filterMap (Output.handledBy monitor) ++
          (feed operate (s.subscribers monitor)
            (tasks.filterMap (Task.operationOn monitor))).2) := by
  induction tasks generalizing s with
  | nil => simp
  | cons task tasks ih =>
      have hfirst := dispatch_monitor s task monitor
      rw [List.foldl_cons, ih]
      cases hoperation : task.operationOn monitor with
      | none =>
          rw [hoperation] at hfirst
          obtain ⟨hsubscribers, houtputs⟩ := Prod.mk.injEq .. ▸ hfirst
          rw [List.filterMap_cons_none hoperation, hsubscribers, houtputs]
      | some operation =>
          rw [hoperation] at hfirst
          obtain ⟨hsubscribers, houtputs⟩ := Prod.mk.injEq .. ▸ hfirst
          rw [List.filterMap_cons_some hoperation, feed_cons, hsubscribers, houtputs,
            List.append_assoc]

/-- A subscriber of a monitor is handed what the monitor is given while it is
subscribed. -/
theorem handled_foldl_dispatch (tasks : List (Task α ς υ)) (monitor : ℕ) (subscriber : ς) :
    outputsOf subscriber ((tasks.foldl QtSide.dispatch {}).outputs.filterMap
        (Output.handledBy monitor)) =
      received subscriber false (tasks.filterMap (Task.operationOn monitor)) := by
  have hboth := congrArg Prod.snd (foldl_dispatch_monitor {} tasks monitor)
  dsimp only at hboth
  rw [hboth, List.filterMap_nil, List.nil_append,
    outputsOf_feed_operate (List.nodup_nil (α := ς))]
  rfl

/-- The results that were called back with are those of the tasks that ran. -/
theorem results_foldl_dispatch (s : QtSide α ς υ) (tasks : List (Task α ς υ)) (number : ℕ) :
    (tasks.foldl QtSide.dispatch s).outputs.filterMap (Output.resultOf number) =
      s.outputs.filterMap (Output.resultOf number) ++
        tasks.filterMap (Task.resultOf number) := by
  induction tasks generalizing s with
  | nil => simp
  | cons task tasks ih =>
      have hnone : ∀ (monitor : ℕ) (subscribers : List ς) (update : υ),
          (subscribers.map fun subscriber =>
            (Output.handled monitor subscriber update : Output α ς υ)).filterMap
              (Output.resultOf number) = [] := by
        intro monitor subscribers update
        simp [List.filterMap_map, Function.comp_def, Output.resultOf]
      rw [List.foldl_cons, ih]
      rcases task with ⟨number', result⟩ | ⟨number', monitor⟩ | ⟨monitor, subscriber⟩ |
        ⟨monitor, subscriber⟩ | ⟨monitor, update⟩
      · by_cases h : number' = number
        · simp [QtSide.dispatch, Output.resultOf, Task.resultOf, h]
        · simp [QtSide.dispatch, Output.resultOf, Task.resultOf, h]
      · simp [QtSide.dispatch, List.filterMap_cons, Output.resultOf, Task.resultOf]
      · simp [QtSide.dispatch, List.filterMap_cons, Task.resultOf]
      · simp [QtSide.dispatch, List.filterMap_cons, Task.resultOf]
      · simp only [QtSide.dispatch, List.filterMap_append, hnone, List.filterMap_cons,
          Task.resultOf, List.append_nil]

end Dispatch

namespace Client

variable [DecidableEq ς] {c c' : Client ρ α ς υ} {events : List (Event ρ α ς υ)}

/-! ## The order of the tasks -/

/-- What was made of the events so far: the native client was given the first requests in
their order, and Qt ran the first tasks in their order. -/
structure InOrder (events : List (Event ρ α ς υ)) (c : Client ρ α ς υ) : Prop where
  requests : c.requests = (events.filterMap Event.request).length
  native : c.native ++ c.toNative = (events.filterMap Event.request).zipIdx
  posted : c.toQt.posted = events.filterMap Event.post
  runs : c.toQt.RunsInOrder QtSide.dispatch {}

theorem inOrder_create : InOrder [] (create : Client ρ α ς υ) where
  requests := rfl
  native := rfl
  posted := rfl
  runs := Loop.runsInOrder_init _ _

theorem Step.inOrder {event : Event ρ α ς υ} (hstep : Step c event c')
    (h : InOrder events c) : InOrder (events ++ [event]) c' := by
  have hrequests := h.requests
  have hnative := h.native
  have hposted := h.posted
  cases hstep with
  | call request =>
      have hsome : (Event.call request : Event ρ α ς υ).request = some request := rfl
      refine ⟨?_, ?_, ?_, h.runs⟩
      · rw [filterMap_concat_some hsome, List.length_append, ← hrequests]
        rfl
      · rw [filterMap_concat_some hsome, List.zipIdx_append, ← hnative, ← hrequests,
          List.append_assoc]
        simp [dispatchToNative]
      · rw [filterMap_concat_none rfl]
        exact hposted
  | turnNative hqueue =>
      refine ⟨?_, ?_, ?_, h.runs⟩
      · rw [filterMap_concat_none rfl]
        exact hrequests
      · rw [filterMap_concat_none rfl, ← hnative, hqueue, List.append_assoc]
        rfl
      · rw [filterMap_concat_none rfl]
        exact hposted
  | turnQt hqueue =>
      refine ⟨?_, ?_, ?_, h.runs.turn (by simp only [Loop.turn, hqueue])⟩
      · rw [filterMap_concat_none rfl]
        exact hrequests
      · rw [filterMap_concat_none rfl]
        exact hnative
      · rw [filterMap_concat_none rfl]
        exact hposted
  | post monitors hpost hrequest hknows =>
      refine ⟨?_, ?_, ?_, h.runs.post _⟩
      · rw [filterMap_concat_none hrequest]
        exact hrequests
      · rw [filterMap_concat_none hrequest]
        exact hnative
      · rw [filterMap_concat_some hpost, ← hposted]
        rfl

/-! ## Monitors are given before they are used -/

/-- A subscriber is handed an update, or may be handed one, only after the application
was given the monitor. -/
structure GivesFirst (c : Client ρ α ς υ) : Prop where
  queued : ∀ monitor subscriber, .subscribe monitor subscriber ∈ c.toQt.queue →
    c.Knows monitor
  subscribed : ∀ monitor, c.toQt.state.subscribers monitor ≠ [] → c.Knows monitor
  handled : ∀ (i monitor : ℕ) (subscriber : ς) (update : υ),
    c.toQt.state.outputs[i]? = some (.handled monitor subscriber update) →
      ∃ j < i, ∃ number, c.toQt.state.outputs[j]? = some (.monitored number monitor)

omit [DecidableEq ς] in
theorem givesFirst_create : (create : Client ρ α ς υ).GivesFirst where
  queued := by simp [create]
  subscribed := by simp [create]
  handled := by simp [create]

omit [DecidableEq ς] in
/-- Outputs that come at the end are no objection, if they are of monitors that were
given. -/
theorem GivesFirst.append (h : c.GivesFirst) {outputs : List (Output α ς υ)}
    (hnew : ∀ monitor subscriber update, .handled monitor subscriber update ∈ outputs →
      c.Knows monitor)
    {i monitor : ℕ} {subscriber : ς} {update : υ}
    (hi : (c.toQt.state.outputs ++ outputs)[i]? =
      some (.handled monitor subscriber update)) :
    ∃ j < i, ∃ number,
      (c.toQt.state.outputs ++ outputs)[j]? = some (.monitored number monitor) := by
  rcases Nat.lt_or_ge i c.toQt.state.outputs.length with hlt | hge
  · rw [List.getElem?_append_left hlt] at hi
    obtain ⟨j, hj, number, hgiven⟩ := h.handled i monitor subscriber update hi
    exact ⟨j, hj, number, by rw [List.getElem?_append_left (Nat.lt_trans hj hlt), hgiven]⟩
  · rw [List.getElem?_append_right hge] at hi
    obtain ⟨number, hmem⟩ := hnew _ _ _ (List.mem_of_getElem? hi)
    obtain ⟨j, hj, hget⟩ := List.mem_iff_getElem.mp hmem
    refine ⟨j, Nat.lt_of_lt_of_le hj hge, number, ?_⟩
    rw [List.getElem?_append_left hj, List.getElem?_eq_getElem hj, hget]

omit [DecidableEq ς] in
theorem knows_append {outputs : List (Output α ς υ)} {toQt : Loop (Task α ς υ) (QtSide α ς υ)}
    (houtputs : toQt.state.outputs = c.toQt.state.outputs ++ outputs) {monitor : ℕ}
    (h : c.Knows monitor) : { c with toQt := toQt }.Knows monitor := by
  obtain ⟨number, hmem⟩ := h
  exact ⟨number, by rw [houtputs]; exact List.mem_append_left _ hmem⟩

/-- A task of Qt hands updates to subscribers of monitors that were given. -/
theorem GivesFirst.turnQt (h : c.GivesFirst) {task : Task α ς υ}
    {rest : List (Task α ς υ)} (hqueue : c.toQt.queue = task :: rest) :
    { c with
      toQt := { c.toQt with
        queue := rest, state := c.toQt.state.dispatch task } }.GivesFirst := by
  have hrest : ∀ monitor subscriber, .subscribe monitor subscriber ∈ rest →
      c.Knows monitor := fun monitor subscriber hmem =>
    h.queued monitor subscriber (by rw [hqueue]; exact List.mem_cons_of_mem _ hmem)
  rcases task with ⟨number, result⟩ | ⟨number, monitor⟩ | ⟨monitor, subscriber⟩ |
    ⟨monitor, subscriber⟩ | ⟨monitor, update⟩
  · refine ⟨fun monitor subscriber hmem => knows_append rfl (hrest _ _ hmem),
      fun monitor hne => knows_append rfl (h.subscribed _ hne), ?_⟩
    exact fun i monitor subscriber update hi => h.append (by simp) hi
  · refine ⟨fun monitor subscriber hmem => knows_append rfl (hrest _ _ hmem),
      fun monitor hne => knows_append rfl (h.subscribed _ hne), ?_⟩
    exact fun i monitor subscriber update hi => h.append (by simp) hi
  · refine ⟨hrest, fun monitor' hne => ?_, h.handled⟩
    by_cases heq : monitor' = monitor
    · subst heq
      exact h.queued monitor' subscriber (by simp [hqueue])
    · simp only [QtSide.dispatch, Function.update_of_ne heq] at hne
      exact h.subscribed monitor' hne
  · refine ⟨hrest, fun monitor' hne => ?_, h.handled⟩
    by_cases heq : monitor' = monitor
    · subst heq
      simp only [QtSide.dispatch, Function.update_self] at hne
      refine h.subscribed monitor' fun hnil => hne ?_
      rw [hnil]
      rfl
    · simp only [QtSide.dispatch, Function.update_of_ne heq] at hne
      exact h.subscribed monitor' hne
  · refine ⟨fun monitor subscriber hmem => knows_append rfl (hrest _ _ hmem),
      fun monitor hne => knows_append rfl (h.subscribed _ hne), ?_⟩
    refine fun i monitor subscriber update hi => h.append ?_ hi
    intro monitor' subscriber' update' hmem
    obtain ⟨subscriber'', hsubscriber, heq⟩ := List.mem_map.mp hmem
    cases heq
    exact h.subscribed _ (List.ne_nil_of_mem hsubscriber)

theorem Step.givesFirst {event : Event ρ α ς υ} (hstep : Step c event c')
    (h : c.GivesFirst) : c'.GivesFirst := by
  cases hstep with
  | call => exact ⟨h.queued, h.subscribed, h.handled⟩
  | turnNative => exact ⟨h.queued, h.subscribed, h.handled⟩
  | turnQt hqueue => exact h.turnQt hqueue
  | @post event task monitors hpost hrequest hknows =>
      refine ⟨fun monitor subscriber hmem => ?_, h.subscribed, h.handled⟩
      rcases List.mem_append.mp hmem with hold | hnew
      · exact h.queued monitor subscriber hold
      · exact hknows monitor subscriber (List.mem_singleton.mp hnew).symm

/-! ## Whole runs -/

/-- A request for a monitor and another request; updates come before and after the
application subscribes, and after it unsubscribed. -/
def monitorRun : List (Event String String String ℕ) :=
  [.call "monitor", .call "search", .turnNative, .turnNative, .monitored 0 0,
    .update 0 1, .turnQt, .subscribe 0 "map", .update 0 2, .answer 1 "flights", .turnQt,
    .turnQt, .turnQt, .unsubscribe 0 "map", .update 0 3, .turnQt, .turnQt, .turnQt]

/-- What the application is told in this run: the update before its subscription and the
one after its unsubscription are not among it. -/
example : (run step create monitorRun).map (fun c =>
    outputsOf "map" (c.toQt.state.outputs.filterMap (Output.handledBy 0))) = some [2] := by
  decide

end Client

end Airmap.Qt
