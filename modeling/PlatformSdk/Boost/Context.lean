import Mathlib.Data.Nat.Notation
import PlatformSdk.Machine.Run

/-!
# The context

`boost::Context` and the `io_service` that its `run` gives a thread to.  A state of
three values keeps runs apart, and the first `stop` ends a run by stopping the
`io_service`; nothing resets that, so that it stays stopped for every later run.
-/

namespace Airmap

/-- `Context::ReturnCode`. -/
inductive ReturnCode where
  | success
  | error
  | alreadyRunning
  deriving DecidableEq, Repr

namespace Boost

/-- `boost::Context::State`. -/
inductive Context.State where
  | stopped
  | running
  | stopping
  deriving DecidableEq, Repr

/-- `boost::Context`, as far as it runs and stops. -/
structure Context where
  state : Context.State := .stopped
  returnCode : ReturnCode := .success
  deriving DecidableEq

namespace Context

/-- `Context::run`, up to the loop over the `io_service`. -/
def run (context : Context) : Context :=
  if context.state = .stopped then { state := .running, returnCode := .success }
  else context

/-- `Context::stop`; only the first call has an effect. -/
def stop (rc : ReturnCode) (context : Context) : Context :=
  if context.state = .running then { state := .stopping, returnCode := rc } else context

theorem stop_of_running {context : Context} (h : context.state = .running)
    (rc : ReturnCode) : context.stop rc = { state := .stopping, returnCode := rc } := by
  rw [stop, if_pos h]

/-! ## Runs over the service -/

/-- Where the thread is that is inside of `run`. -/
inductive Phase where
  /-- Between the exchange of the state and the store of the return code. -/
  | entered
  /-- In the loop, between two tasks. -/
  | looping
  | executing
  deriving DecidableEq

/-- A run that has not given back the state yet, with the code that the first `stop` of
it was called with. -/
structure Running where
  phase : Phase := .entered
  firstStop : Option ReturnCode := none
  deriving DecidableEq

/-- A call of `stop` that has exchanged the state but has not stopped the service yet,
and whether it has stored its code. -/
structure Stopping where
  returnCode : ReturnCode
  stored : Bool := false
  deriving DecidableEq

/-- A context with its `io_service` and the calls that are inside of `run` or `stop`.
What was dispatched, what was executed and what every run returned, each with the code
of its first `stop`, is kept as well. -/
structure System (τ : Type) where
  context : Context := {}
  queue : List τ := []
  stopped : Bool := false
  running : Option Running := none
  leaving : List (Option ReturnCode) := []
  stopping : List Stopping := []
  dispatched : List τ := []
  executed : List τ := []
  results : List (Option ReturnCode × ReturnCode) := []
  deriving DecidableEq

/-- One atomic step of some thread. -/
inductive Event (τ : Type) where
  /-- `run` exchanges the state, or returns `already_running`. -/
  | run
  | storeSuccess
  | execute
  /-- A task returns, or throws what the loop catches. -/
  | finish (throws : Bool)
  /-- The loop has found the service stopped, and gives back the state. -/
  | leave
  /-- The `i`-th thread that has given back the state returns the code. -/
  | load (i : ℕ)
  /-- `stop` exchanges the state, or returns. -/
  | stop (returnCode : ReturnCode)
  | storeCode (i : ℕ)
  | stopService (i : ℕ)
  | dispatch (task : τ)

namespace System

variable {τ : Type}

/-- What the run keeps of a call of `stop`. -/
def noteStop (s : System τ) (rc : ReturnCode) : Option Running :=
  s.running.map fun running => { running with firstStop := running.firstStop <|> some rc }

def step (s : System τ) : Event τ → Option (System τ)
  | .run =>
      if s.context.state = .stopped then
        some { s with context.state := .running, running := some {} }
      else some s
  | .storeSuccess =>
      match s.running with
      | some ⟨.entered, firstStop⟩ =>
          some { s with
            context.returnCode := .success
            running := some { phase := .looping, firstStop } }
      | _ => none
  | .execute =>
      match s.running, s.stopped, s.queue with
      | some ⟨.looping, firstStop⟩, false, task :: queue =>
          some { s with
            queue := queue
            executed := s.executed ++ [task]
            running := some { phase := .executing, firstStop } }
      | _, _, _ => none
  | .finish _ =>
      match s.running with
      | some ⟨.executing, firstStop⟩ =>
          some { s with running := some { phase := .looping, firstStop } }
      | _ => none
  | .leave =>
      match s.running, s.stopped with
      | some ⟨.looping, firstStop⟩, true =>
          some { s with
            context.state := .stopped
            running := none
            leaving := s.leaving ++ [firstStop] }
      | _, _ => none
  | .load i =>
      match s.leaving[i]? with
      | some firstStop =>
          some { s with
            leaving := s.leaving.eraseIdx i
            results := (firstStop, s.context.returnCode) :: s.results }
      | none => none
  | .stop rc =>
      if s.context.state = .running then
        some { s with
          context.state := .stopping
          running := s.noteStop rc
          stopping := s.stopping ++ [{ returnCode := rc }] }
      else some { s with running := s.noteStop rc }
  | .storeCode i =>
      match s.stopping[i]? with
      | some ⟨rc, false⟩ =>
          some { s with
            context.returnCode := rc
            stopping := s.stopping.set i { returnCode := rc, stored := true } }
      | _ => none
  | .stopService i =>
      match s.stopping[i]? with
      | some ⟨_, true⟩ =>
          some { s with stopped := true, stopping := s.stopping.eraseIdx i }
      | _ => none
  | .dispatch task =>
      some { s with queue := s.queue ++ [task], dispatched := s.dispatched ++ [task] }

/-- What the steps of a call of `run` come to when nothing comes between them. -/
theorem run_enter {s : System τ} (hstate : s.context.state = .stopped) :
    Machine.run step s [.run, .storeSuccess] =
      some { s with context := s.context.run, running := some { phase := .looping } } := by
  simp [Machine.run, step, hstate, Context.run]

/-! ### What the steps of a run can do -/

section Steps

variable {s s' : System τ}

theorem step_storeSuccess (h : step s .storeSuccess = some s') :
    ∃ firstStop, s.running = some ⟨.entered, firstStop⟩ ∧
      s' = { s with
        context.returnCode := .success
        running := some { phase := .looping, firstStop } } := by
  simp only [step] at h
  split at h
  next firstStop hrunning =>
    cases h
    exact ⟨firstStop, hrunning, rfl⟩
  next => cases h

theorem step_execute (h : step s .execute = some s') :
    ∃ firstStop task queue, s.running = some ⟨.looping, firstStop⟩ ∧ s.stopped = false ∧
      s.queue = task :: queue ∧
      s' = { s with
        queue := queue
        executed := s.executed ++ [task]
        running := some { phase := .executing, firstStop } } := by
  simp only [step] at h
  split at h
  next firstStop task queue hrunning hstopped hqueue =>
    cases h
    exact ⟨firstStop, task, queue, hrunning, hstopped, hqueue, rfl⟩
  next => cases h

theorem step_finish {throws : Bool} (h : step s (.finish throws) = some s') :
    ∃ firstStop, s.running = some ⟨.executing, firstStop⟩ ∧
      s' = { s with running := some { phase := .looping, firstStop } } := by
  simp only [step] at h
  split at h
  next firstStop hrunning =>
    cases h
    exact ⟨firstStop, hrunning, rfl⟩
  next => cases h

theorem step_leave (h : step s .leave = some s') :
    ∃ firstStop, s.running = some ⟨.looping, firstStop⟩ ∧ s.stopped = true ∧
      s' = { s with
        context.state := .stopped
        running := none
        leaving := s.leaving ++ [firstStop] } := by
  simp only [step] at h
  split at h
  next firstStop hrunning hstopped =>
    cases h
    exact ⟨firstStop, hrunning, hstopped, rfl⟩
  next => cases h

theorem step_load {i : ℕ} (h : step s (.load i) = some s') :
    ∃ firstStop, s.leaving[i]? = some firstStop ∧
      s' = { s with
        leaving := s.leaving.eraseIdx i
        results := (firstStop, s.context.returnCode) :: s.results } := by
  simp only [step] at h
  split at h
  next firstStop hleaving =>
    cases h
    exact ⟨firstStop, hleaving, rfl⟩
  next => cases h

theorem step_storeCode {i : ℕ} (h : step s (.storeCode i) = some s') :
    ∃ rc, s.stopping[i]? = some ⟨rc, false⟩ ∧
      s' = { s with
        context.returnCode := rc
        stopping := s.stopping.set i { returnCode := rc, stored := true } } := by
  simp only [step] at h
  split at h
  next rc hstopping =>
    cases h
    exact ⟨rc, hstopping, rfl⟩
  next => cases h

theorem step_stopService {i : ℕ} (h : step s (.stopService i) = some s') :
    ∃ rc, s.stopping[i]? = some ⟨rc, true⟩ ∧
      s' = { s with stopped := true, stopping := s.stopping.eraseIdx i } := by
  simp only [step] at h
  split at h
  next rc hstopping =>
    cases h
    exact ⟨rc, hstopping, rfl⟩
  next => cases h

/-- The exchange of the state in `run` touches neither tasks nor results. -/
theorem step_run (h : step s .run = some s') :
    s' = s ∨ s' = { s with context.state := .running, running := some {} } := by
  simp only [step] at h
  split at h
  · cases h
    exact Or.inr rfl
  · cases h
    exact Or.inl rfl

theorem step_stop {rc : ReturnCode} (h : step s (.stop rc) = some s') :
    s' = { s with running := s.noteStop rc } ∨
      s' = { s with
        context.state := .stopping
        running := s.noteStop rc
        stopping := s.stopping ++ [{ returnCode := rc }] } := by
  simp only [step] at h
  split at h
  · cases h
    exact Or.inr rfl
  · cases h
    exact Or.inl rfl

/-- Only a thread that leaves adds a result. -/
theorem results_of_step {e : Event τ} (h : step s e = some s') :
    s'.results = s.results ∨ ∃ firstStop ∈ s.leaving,
      s'.results = (firstStop, s.context.returnCode) :: s.results := by
  cases e with
  | run => rcases step_run h with rfl | rfl <;> exact Or.inl rfl
  | storeSuccess =>
      obtain ⟨_, -, rfl⟩ := step_storeSuccess h
      exact Or.inl rfl
  | execute =>
      obtain ⟨_, _, _, -, -, -, rfl⟩ := step_execute h
      exact Or.inl rfl
  | finish throws =>
      obtain ⟨_, -, rfl⟩ := step_finish h
      exact Or.inl rfl
  | leave =>
      obtain ⟨_, -, -, rfl⟩ := step_leave h
      exact Or.inl rfl
  | load i =>
      obtain ⟨firstStop, hload, rfl⟩ := step_load h
      exact Or.inr ⟨firstStop, List.mem_of_getElem? hload, rfl⟩
  | stop rc => rcases step_stop h with rfl | rfl <;> exact Or.inl rfl
  | storeCode i =>
      obtain ⟨_, -, rfl⟩ := step_storeCode h
      exact Or.inl rfl
  | stopService i =>
      obtain ⟨_, -, rfl⟩ := step_stopService h
      exact Or.inl rfl
  | dispatch task =>
      cases h
      exact Or.inl rfl

/-- Every task is dispatched to the end of the queue, and executed from its front. -/
theorem tasks_of_step {e : Event τ} (h : step s e = some s')
    (hinOrder : s.executed ++ s.queue = s.dispatched) :
    s'.executed ++ s'.queue = s'.dispatched := by
  cases e with
  | run => rcases step_run h with rfl | rfl <;> exact hinOrder
  | storeSuccess =>
      obtain ⟨_, -, rfl⟩ := step_storeSuccess h
      exact hinOrder
  | execute =>
      obtain ⟨_, task, queue, -, -, hqueue, rfl⟩ := step_execute h
      rw [← hinOrder, hqueue]
      simp
  | finish throws =>
      obtain ⟨_, -, rfl⟩ := step_finish h
      exact hinOrder
  | leave =>
      obtain ⟨_, -, -, rfl⟩ := step_leave h
      exact hinOrder
  | load i =>
      obtain ⟨_, -, rfl⟩ := step_load h
      exact hinOrder
  | stop rc => rcases step_stop h with rfl | rfl <;> exact hinOrder
  | storeCode i =>
      obtain ⟨_, -, rfl⟩ := step_storeCode h
      exact hinOrder
  | stopService i =>
      obtain ⟨_, -, rfl⟩ := step_stopService h
      exact hinOrder
  | dispatch task =>
      cases h
      rw [← hinOrder]
      simp

end Steps

/-! ## What is asked of runs -/

/-- A run goes on, and executes what is in the queue, until `stop` is called during it,
and returns the code of the first such call.  Tasks are executed in the order in which
they were dispatched, none of them twice. -/
structure RunsProperly (s : System τ) : Prop where
  goesOn : ∀ running, s.running = some running → running.firstStop = none →
    step s .leave = none
  executes : ∀ task queue, s.running = some { phase := .looping } →
    s.queue = task :: queue →
    ∃ s', step s .execute = some s' ∧ s'.executed = s.executed ++ [task] ∧ s'.queue = queue
  returns : ∀ result ∈ s.results, result.1 = some result.2
  inOrder : s.executed ++ s.queue = s.dispatched

/-- A run is entered only as long as the service was not stopped, and `success` is not
stored over the code of a `stop`. -/
def EntersFresh (s : System τ) : Event τ → Prop
  | .run => s.context.state = .stopped → s.stopped = false
  | .storeSuccess => ∀ running rc, s.running = some running →
      running.firstStop = some rc → rc = .success ∨ { returnCode := rc } ∈ s.stopping
  | _ => True

/-! ## The stages of the first run -/

/-- The stages through which runs go that are entered on a fresh service: there is one
of them at most. -/
inductive Stage (s : System τ) : Prop where
  | idle (hstate : s.context.state = .stopped) (hrunning : s.running = none)
      (hstopping : s.stopping = []) (hstopped : s.stopped = false) (hleaving : s.leaving = [])
  | runs {phase} (hstate : s.context.state = .running)
      (hrunning : s.running = some { phase }) (hstopping : s.stopping = [])
      (hstopped : s.stopped = false) (hleaving : s.leaving = [])
  | stopCalled {phase rc} (hstate : s.context.state = .stopping)
      (hrunning : s.running = some { phase, firstStop := some rc })
      (hstopping : s.stopping = [{ returnCode := rc }]) (hstopped : s.stopped = false)
      (hleaving : s.leaving = [])
  | codeStored {phase rc} (hstate : s.context = ⟨.stopping, rc⟩)
      (hrunning : s.running = some { phase, firstStop := some rc })
      (hstopping : s.stopping = [{ returnCode := rc, stored := true }])
      (hstopped : s.stopped = false) (hleaving : s.leaving = [])
  | serviceStopped {phase rc} (hstate : s.context = ⟨.stopping, rc⟩)
      (hrunning : s.running = some { phase, firstStop := some rc })
      (hstopping : s.stopping = []) (hstopped : s.stopped = true) (hleaving : s.leaving = [])
  | left {rc} (hstate : s.context = ⟨.stopped, rc⟩) (hrunning : s.running = none)
      (hstopping : s.stopping = []) (hstopped : s.stopped = true)
      (hleaving : ∀ firstStop ∈ s.leaving, firstStop = some rc)

/-- What the runs have come to, next to their stage. -/
structure Accounts (s : System τ) : Prop where
  stage : Stage s
  returns : ∀ result ∈ s.results, result.1 = some result.2
  inOrder : s.executed ++ s.queue = s.dispatched

theorem Accounts.runsProperly {s : System τ} (h : Accounts s) : RunsProperly s := by
  have hstopped : ∀ running, s.running = some running → running.firstStop = none →
      s.stopped = false := by
    intro running hrunning hfirst
    cases h.stage with
    | runs _ _ _ hstopped => exact hstopped
    | idle _ hnone => simp [hnone] at hrunning
    | left _ hnone => simp [hnone] at hrunning
    | stopCalled _ hsome | codeStored _ hsome | serviceStopped _ hsome =>
        rw [hsome] at hrunning
        cases hrunning
        cases hfirst
  refine ⟨fun running hrunning hfirst => ?_, fun task queue hrunning hqueue => ?_,
    h.returns, h.inOrder⟩
  · simp [step, hstopped running hrunning hfirst]
  · have hfresh := hstopped _ hrunning rfl
    simp [step, hrunning, hfresh, hqueue]

/-- The phase of the run is no matter to the stage, nor are the tasks. -/
theorem Stage.with_phase {s s' : System τ} {phase phase' : Phase}
    {firstStop : Option ReturnCode} (hstage : Stage s)
    (hrunning : s.running = some ⟨phase, firstStop⟩)
    (hrunning' : s'.running = some ⟨phase', firstStop⟩) (hcontext : s'.context = s.context)
    (hstopping' : s'.stopping = s.stopping) (hstopped' : s'.stopped = s.stopped)
    (hleaving' : s'.leaving = s.leaving) : Stage s' := by
  cases hstage with
  | idle _ hnone | left _ hnone => simp [hnone] at hrunning
  | runs hstate hsome hstopping hstopped hleaving =>
      rw [hsome] at hrunning
      cases hrunning
      exact .runs (hcontext ▸ hstate) hrunning' (hstopping'.trans hstopping)
        (hstopped'.trans hstopped) (hleaving'.trans hleaving)
  | stopCalled hstate hsome hstopping hstopped hleaving =>
      rw [hsome] at hrunning
      cases hrunning
      exact .stopCalled (hcontext ▸ hstate) hrunning' (hstopping'.trans hstopping)
        (hstopped'.trans hstopped) (hleaving'.trans hleaving)
  | codeStored hstate hsome hstopping hstopped hleaving =>
      rw [hsome] at hrunning
      cases hrunning
      exact .codeStored (hcontext.trans hstate) hrunning' (hstopping'.trans hstopping)
        (hstopped'.trans hstopped) (hleaving'.trans hleaving)
  | serviceStopped hstate hsome hstopping hstopped hleaving =>
      rw [hsome] at hrunning
      cases hrunning
      exact .serviceStopped (hcontext.trans hstate) hrunning' (hstopping'.trans hstopping)
        (hstopped'.trans hstopped) (hleaving'.trans hleaving)

/-- The only run is entered first. -/
theorem stage_run {s s' : System τ} (hstage : Stage s) (hfresh : EntersFresh s .run)
    (hstep : step s .run = some s') : Stage s' := by
  have hkept := hstage
  cases hstage with
  | idle hstate hrunning hstopping hstopped hleaving =>
      simp only [step, hstate, if_true, Option.some.injEq] at hstep
      cases hstep
      exact .runs rfl rfl hstopping hstopped hleaving
  | left hstate hrunning hstopping hstopped hleaving =>
      have hfalse := hfresh (by rw [hstate])
      rw [hstopped] at hfalse
      cases hfalse
  | runs hstate | stopCalled hstate | codeStored hstate | serviceStopped hstate =>
      simp only [step, hstate, reduceCtorEq, if_false, Option.some.injEq] at hstep
      cases hstep
      exact hkept

theorem stage_storeSuccess {s s' : System τ} (hstage : Stage s)
    (hfresh : EntersFresh s .storeSuccess) (hstep : step s .storeSuccess = some s') :
    Stage s' := by
  obtain ⟨firstStop, hentered, rfl⟩ := step_storeSuccess hstep
  cases hstage with
  | idle _ hnone | left _ hnone => simp [hnone] at hentered
  | runs hstate hsome hstopping hstopped hleaving =>
      rw [hsome] at hentered
      cases hentered
      exact .runs hstate rfl hstopping hstopped hleaving
  | stopCalled hstate hsome hstopping hstopped hleaving =>
      rw [hsome] at hentered
      cases hentered
      exact .stopCalled hstate rfl hstopping hstopped hleaving
  | codeStored hstate hsome hstopping hstopped hleaving =>
      rw [hsome] at hentered
      cases hentered
      obtain rfl : _ = ReturnCode.success := by
        rcases hfresh _ _ hsome rfl with hsuccess | hmem
        · exact hsuccess
        · simp [hstopping] at hmem
      exact .codeStored (by rw [hstate]) rfl hstopping hstopped hleaving
  | serviceStopped hstate hsome hstopping hstopped hleaving =>
      rw [hsome] at hentered
      cases hentered
      obtain rfl : _ = ReturnCode.success := by
        rcases hfresh _ _ hsome rfl with hsuccess | hmem
        · exact hsuccess
        · simp [hstopping] at hmem
      exact .serviceStopped (by rw [hstate]) rfl hstopping hstopped hleaving

theorem stage_leave {s s' : System τ} (hstage : Stage s)
    (hstep : step s .leave = some s') : Stage s' := by
  obtain ⟨firstStop, hlooping, hservice, rfl⟩ := step_leave hstep
  cases hstage with
  | serviceStopped hstate hsome hstopping hstopped hleaving =>
      rw [hsome] at hlooping
      cases hlooping
      exact .left (by rw [hstate]) rfl hstopping hstopped (by simp [hleaving])
  | left _ hnone => simp [hnone] at hlooping
  | idle _ _ _ hstopped | runs _ _ _ hstopped | stopCalled _ _ _ hstopped
  | codeStored _ _ _ hstopped => simp [hstopped] at hservice

theorem stage_load {s s' : System τ} {i : ℕ} (hstage : Stage s)
    (hstep : step s (.load i) = some s') : Stage s' := by
  obtain ⟨firstStop, hload, rfl⟩ := step_load hstep
  cases hstage with
  | left hstate hrunning hstopping hstopped hleaving =>
      exact .left hstate hrunning hstopping hstopped fun firstStop hmem =>
        hleaving firstStop (List.mem_of_mem_eraseIdx hmem)
  | idle _ _ _ _ hleaving | runs _ _ _ _ hleaving | stopCalled _ _ _ _ hleaving
  | codeStored _ _ _ _ hleaving | serviceStopped _ _ _ _ hleaving =>
      simp [hleaving] at hload

/-- A call of `stop` outside of a run, or after the first one, has no effect. -/
theorem step_stop_of_ne {s : System τ} {rc : ReturnCode}
    (hstate : s.context.state ≠ .running) (hnote : s.noteStop rc = s.running) :
    step s (.stop rc) = some s := by
  rw [step, if_neg hstate, hnote]

theorem stage_stop {s s' : System τ} {rc : ReturnCode} (hstage : Stage s)
    (hstep : step s (.stop rc) = some s') : Stage s' := by
  have hkept := hstage
  cases hstage with
  | @runs phase hstate hrunning hstopping hstopped hleaving =>
      have hfirst : s.noteStop rc = some { phase, firstStop := some rc } := by
        simp [noteStop, hrunning]
      simp only [step, hstate, if_true, Option.some.injEq, hfirst] at hstep
      cases hstep
      exact .stopCalled rfl rfl (by simp [hstopping]) hstopped hleaving
  | idle hstate hrunning | left hstate hrunning | stopCalled hstate hrunning
  | codeStored hstate hrunning | serviceStopped hstate hrunning =>
      rw [step_stop_of_ne (by simp [hstate]) (by simp [noteStop, hrunning])] at hstep
      cases hstep
      exact hkept

theorem stage_storeCode {s s' : System τ} {i : ℕ} (hstage : Stage s)
    (hstep : step s (.storeCode i) = some s') : Stage s' := by
  obtain ⟨rc, hcode, rfl⟩ := step_storeCode hstep
  cases hstage with
  | stopCalled hstate hrunning hstopping hstopped hleaving =>
      cases i with
      | zero =>
          rw [hstopping] at hcode
          cases hcode
          exact .codeStored (by simp [hstate]) hrunning (by simp [hstopping]) hstopped
            hleaving
      | succ i => simp [hstopping] at hcode
  | codeStored hstate hrunning hstopping => cases i <;> simp [hstopping] at hcode
  | idle _ _ hstopping | runs _ _ hstopping | serviceStopped _ _ hstopping
  | left _ _ hstopping => simp [hstopping] at hcode

theorem stage_stopService {s s' : System τ} {i : ℕ} (hstage : Stage s)
    (hstep : step s (.stopService i) = some s') : Stage s' := by
  obtain ⟨rc, hcode, rfl⟩ := step_stopService hstep
  cases hstage with
  | codeStored hstate hrunning hstopping hstopped hleaving =>
      cases i with
      | zero => exact .serviceStopped hstate hrunning (by simp [hstopping]) rfl hleaving
      | succ i => simp [hstopping] at hcode
  | stopCalled hstate hrunning hstopping => cases i <;> simp [hstopping] at hcode
  | idle _ _ hstopping | runs _ _ hstopping | serviceStopped _ _ hstopping
  | left _ _ hstopping => simp [hstopping] at hcode

/-- A task that waits is no matter to the stage either. -/
theorem stage_dispatch {s s' : System τ} {task : τ} (hstage : Stage s)
    (hstep : step s (.dispatch task) = some s') : Stage s' := by
  cases hstep
  cases hstage with
  | idle hstate hrunning hstopping hstopped hleaving =>
      exact .idle hstate hrunning hstopping hstopped hleaving
  | runs hstate hrunning hstopping hstopped hleaving =>
      exact .runs hstate hrunning hstopping hstopped hleaving
  | stopCalled hstate hrunning hstopping hstopped hleaving =>
      exact .stopCalled hstate hrunning hstopping hstopped hleaving
  | codeStored hstate hrunning hstopping hstopped hleaving =>
      exact .codeStored hstate hrunning hstopping hstopped hleaving
  | serviceStopped hstate hrunning hstopping hstopped hleaving =>
      exact .serviceStopped hstate hrunning hstopping hstopped hleaving
  | left hstate hrunning hstopping hstopped hleaving =>
      exact .left hstate hrunning hstopping hstopped hleaving

/-- What every step keeps that enters runs on a fresh service only. -/
theorem stage_step {s s' : System τ} {e : Event τ} (hstage : Stage s)
    (hfresh : EntersFresh s e) (hstep : step s e = some s') : Stage s' := by
  cases e with
  | run => exact stage_run hstage hfresh hstep
  | storeSuccess => exact stage_storeSuccess hstage hfresh hstep
  | execute =>
      obtain ⟨firstStop, task, queue, hrunning, -, -, rfl⟩ := step_execute hstep
      exact hstage.with_phase hrunning rfl rfl rfl rfl rfl
  | finish throws =>
      obtain ⟨firstStop, hrunning, rfl⟩ := step_finish hstep
      exact hstage.with_phase hrunning rfl rfl rfl rfl rfl
  | leave => exact stage_leave hstage hstep
  | load i => exact stage_load hstage hstep
  | stop rc => exact stage_stop hstage hstep
  | storeCode i => exact stage_storeCode hstage hstep
  | stopService i => exact stage_stopService hstage hstep
  | dispatch task => exact stage_dispatch hstage hstep

theorem accounts_step {s s' : System τ} {e : Event τ} (h : Accounts s)
    (hfresh : EntersFresh s e) (hstep : step s e = some s') : Accounts s' := by
  refine ⟨stage_step h.stage hfresh hstep, ?_, tasks_of_step hstep h.inOrder⟩
  rcases results_of_step hstep with hsame | ⟨firstStop, hmem, hresults⟩
  · rw [hsame]
    exact h.returns
  · -- Only in the last stage there are threads that leave.
    have hcode : firstStop = some s.context.returnCode := by
      cases h.stage with
      | left hstate _ _ _ hleaving => simp [hleaving firstStop hmem, hstate]
      | idle _ _ _ _ hleaving | runs _ _ _ _ hleaving | stopCalled _ _ _ _ hleaving
      | codeStored _ _ _ _ hleaving | serviceStopped _ _ _ _ hleaving =>
          simp [hleaving] at hmem
    rw [hresults]
    exact List.forall_mem_cons.mpr ⟨hcode, h.returns⟩

/-- A new context is idle. -/
theorem accounts_init : Accounts ({} : System τ) where
  stage := .idle rfl rfl rfl rfl rfl
  returns := by simp
  inOrder := rfl

/-- In every state that a context can come to while runs are entered on a fresh service,
and `success` is not stored over the code of a `stop`, its runs go on until they are
stopped, execute what was dispatched, and return the code of the first `stop`. -/
theorem runsProperly_of_entersFresh {s : System τ} {events : List (Event τ)}
    (hfresh : Machine.Meets step EntersFresh {} events)
    (hrun : Machine.run step {} events = some s) : RunsProperly s :=
  (Machine.invariant_run Accounts (fun _ _ _ h hfresh hstep => accounts_step h hfresh hstep)
    accounts_init hfresh hrun).runsProperly

/-- A run that is entered on a service that was stopped does not go on. -/
theorem not_runsProperly_of_stopped {s : System τ} (hstate : s.context.state = .stopped)
    (hstopped : s.stopped = true) :
    ∃ s', Machine.run step s [.run, .storeSuccess] = some s' ∧ ¬ RunsProperly s' := by
  refine ⟨_, run_enter hstate, fun hproperly => ?_⟩
  have hgoesOn := hproperly.goesOn _ rfl rfl
  simp [step, hstopped] at hgoesOn

/-- A run with a task, and a `stop` with the code of an error. -/
def stoppedRun : List (Event ℕ) :=
  [.run, .storeSuccess, .dispatch 1, .execute, .stop .error, .finish false, .storeCode 0,
    .stopService 0, .leave, .load 0]

theorem runsProperly_of_entersFresh_stoppedRun :
    ∃ s, Machine.run step {} stoppedRun = some s ∧
      s.results = [(some .error, .error)] ∧ RunsProperly s := by
  have hmeets : Machine.Meets step EntersFresh {} stoppedRun := by
    simp [stoppedRun, Machine.Meets, step, EntersFresh, noteStop]
    rintro running rc rfl hfirst
    cases hfirst
  obtain ⟨s, hrun, hresults⟩ : ∃ s, Machine.run step {} stoppedRun = some s ∧
      s.results = [(some .error, .error)] := Machine.exists_run rfl
  exact ⟨s, hrun, hresults, runsProperly_of_entersFresh hmeets hrun⟩

/-- A second run, for another task. -/
def secondRun : List (Event ℕ) := stoppedRun ++ [.dispatch 2, .run, .storeSuccess]

/-- It can leave before anyone calls `stop`, and cannot execute the task. -/
theorem secondRun_not_runsProperly :
    ∃ s, Machine.run step {} secondRun = some s ∧
      s.running = some { phase := .looping } ∧ s.queue = [2] ∧
      step s .execute = none ∧ ¬ RunsProperly s := by
  refine ⟨_, rfl, rfl, rfl, rfl, fun hproperly => ?_⟩
  have hgoesOn := hproperly.goesOn _ rfl rfl
  cases hgoesOn

/-- A `stop` that comes between the exchange of the state and the store of the return
code. -/
def earlyStop : List (Event ℕ) :=
  [.run, .stop .error, .storeCode 0, .storeSuccess, .stopService 0, .leave, .load 0]

/-- Its code is lost. -/
theorem earlyStop_not_runsProperly :
    ∃ s, Machine.run step {} earlyStop = some s ∧
      s.results = [(some .error, .success)] ∧ ¬ RunsProperly s := by
  refine ⟨_, rfl, rfl, fun hproperly => ?_⟩
  have hreturns := hproperly.returns (some .error, .success) (by simp)
  cases hreturns

end System

end Context
end Boost

end Airmap
