import PlatformSdk.Machine.Simulation
import PlatformSdk.Monitor.Grpc.Service.Steps

/-!
# Writers and lifetimes of the streams

An update is written as soon as it arrives, whether or not the write before it
is done.  The first part of the module says when the writer of a stream still
has one operation at a time, the second part that an invocation that deletes
itself is not reached any more, as the executor of a daemon enters its loop once.
-/

namespace Airmap.Monitor.Grpc

open Airmap.Grpc (MethodInvocation.State)

/-- The invocation deletes itself here. -/
def Entry.Deletes (k : ℕ) : Entry → Prop
  | .deleted j _ => j = k
  | .completion _ | .update _ => False

instance Entry.Deletes.decide (k : ℕ) : ∀ entry, Decidable (Entry.Deletes k entry)
  | .deleted j _ => inferInstanceAs (Decidable (j = k))
  | .completion _ | .update _ => inferInstanceAs (Decidable False)

/-- Nothing reaches an invocation that deleted itself, and it does so once, with
no other operation outstanding. -/
def Entry.Safe : Entry → List Entry → Prop
  | .completion k, past | .update k, past => ∀ entry ∈ past, ¬ Entry.Deletes k entry
  | .deleted k others, past =>
      others = 0 ∧ ∀ entry ∈ past, ¬ Entry.Deletes k entry

instance Entry.Safe.decide : ∀ entry past, Decidable (Entry.Safe entry past)
  | .completion _, _ | .update _, _ => inferInstanceAs (Decidable (∀ _ ∈ _, _))
  | .deleted _ _, _ => inferInstanceAs (Decidable (_ ∧ _))

namespace Service

variable {υ ω : Type*} {encode : υ → ω} {s s' : Service ω}

/-! ## One operation of a writer at a time -/

/-- No writer has more than one operation to complete. -/
def SingleWriter (s : Service ω) : Prop := ∀ k, s.writers k ≤ 1

/-- Updates arrive while no subscriber writes, and a stream is cancelled while
nothing is written to it. -/
def WritesAlone (s : Service ω) : Event υ → Prop
  | .update _ => ∀ k ∈ s.subscribers, s.writers k = 0
  | .turn => ∀ task ∈ s.posted.head?, s.state task.1 = some .streaming →
      task.2 = false → s.writers task.1 = 0
  | .run | .next _ _ => True

theorem Proceeds.singleWriter_iff {k : ℕ} {result : Bool}
    (hproceeds : Proceeds s k result s') (h : s.Shape) (hsingle : s.SingleWriter) :
    s'.SingleWriter ↔
      (s.state k = some .streaming → result = false → s.writers k = 0) := by
  cases hproceeds with
  | dangling _ hstate => exact iff_of_true hsingle (by simp [hstate])
  | accepted hstate =>
      exact iff_of_true (by simpa [SingleWriter] using hsingle) (by simp)
  | refused hstate =>
      refine iff_of_true (fun j => ?_) (by simp [hstate])
      have hzero := h.ready k hstate
      have hone := hsingle j
      by_cases hj : k = j
      · subst hj
        simp [hzero]
      · simpa [hj] using hone
  | written => exact iff_of_true hsingle (by simp)
  | broken hstate =>
      simp only [hstate, forall_const]
      constructor
      · intro hafter
        have hone := hafter k
        simp only [writers_finish, writers_unsubscribe, if_pos] at hone
        omega
      · intro hzero j
        have hone := hsingle j
        by_cases hj : k = j
        · subst hj
          simp [hzero]
        · simpa [hj] using hone
  | deleted _ hstate => exact iff_of_true hsingle (by simp [hstate])

theorem Step.singleWriter_iff {event : Event υ} (hstep : Step encode s event s')
    (h : s.Shape) (hsingle : s.SingleWriter) :
    s'.SingleWriter ↔ s.WritesAlone event := by
  cases hstep with
  | run => exact iff_of_true hsingle trivial
  | next ok hi =>
      exact iff_of_true (fun j => (writers_next _ _ ok j).trans (hsingle j)) trivial
  | @turn k result rest t hposted hproceeds =>
      rw [hproceeds.singleWriter_iff (h.turn hposted) hsingle]
      simp only [WritesAlone, hposted, List.head?_cons, Option.mem_some_iff,
        forall_eq']
      rfl
  | update updates =>
      have hcount := fun j => h.distinct.count (a := j)
      constructor
      · intro hafter k hk
        have hone := hafter k
        rw [writers_handleUpdate, hcount k, if_pos hk] at hone
        omega
      · intro hzero k
        rw [writers_handleUpdate, hcount k]
        split
        next hk => rw [hzero k hk]
        next => exact hsingle k

theorem writesAlone_of_disabled {event : Event υ} (h : s.step encode event = none) :
    s.WritesAlone event := by
  cases event with
  | turn =>
      intro task htask
      cases hposted : s.posted with
      | nil => simp [hposted] at htask
      | cons front rest => simp [step, hposted] at h
  | update updates => cases h
  | run | next i ok => trivial

/-- In every state of a run each writer has at most one operation to complete,
exactly when updates and failures come while nothing is written. -/
theorem singleWriter_along_iff_writesAlone {υ ω : Type*} (encode : υ → ω)
    (events : List (Event υ)) :
    Machine.Along (step encode) SingleWriter start events ↔
      Machine.Meets (step encode) WritesAlone start events := by
  apply Machine.along_iff_meets Shape
  · exact fun s event s' h _ hnext _ => (step_cases hnext).shape h
  · exact fun s event s' h hsingle hnext =>
      (step_cases hnext).singleWriter_iff h hsingle
  · exact fun s event => writesAlone_of_disabled
  · exact shape_start
  · intro k
    rw [start, writers_startListening]
    exact Nat.zero_le 1

/-- Two updates that arrive one after the other, for one client. -/
def twoUpdatesRun : List (Event String) :=
  [.run, .next 0 true, .turn, .update ["first"], .update ["second"]]

theorem two_writes_outstanding :
    ∃ s, Machine.run (step (id : String → String)) start twoUpdatesRun = some s ∧
      ¬ s.SingleWriter := by
  obtain ⟨s, hrun, htwo⟩ : ∃ s, Machine.run (step (id : String → String)) start
      twoUpdatesRun = some s ∧ 1 < s.writers 0 := Machine.exists_run (by decide)
  exact ⟨s, hrun, fun hsingle => absurd (hsingle 0) (Nat.not_le_of_lt htwo)⟩

/-! ## The end of an invocation -/

/-- The executor enters its loop. -/
def Event.isRun : Event υ → Bool
  | .run => true
  | .next _ _ | .turn | .update _ => false

/-- How far a service is whose executor entered its loop a number of times: it works, or
the loop ended and the failure that ended it waits behind other tasks, or these are
executed.  An invocation is finished in the last phase at the earliest, when no completion
is taken from the queue any more. -/
inductive Phase (entered : ℕ) (s : Service ω) : Prop where
  | working (hentered : s.running = true → 0 < entered)
      (hstreams : ∀ k, s.state k ≠ some .finished) (hok : ∀ task ∈ s.posted, task.2 = true)
  | failing {tasks : List (ℕ × Bool)} {k : ℕ} (hentered : 0 < entered)
      (hleft : s.running = false) (hstreams : ∀ k, s.state k ≠ some .finished)
      (hposted : s.posted = tasks ++ [(k, false)]) (hok : ∀ task ∈ tasks, task.2 = true)
  | ended (hentered : 0 < entered) (hleft : s.running = false) (hposted : s.posted = [])

/-- An update is written whatever the phase is. -/
theorem Phase.handleUpdate {entered : ℕ} (h : s.Phase entered) (updates : List υ) :
    (s.handleUpdate encode updates).Phase entered := by
  rw [handleUpdate_eq]
  cases h with
  | working hentered hstreams hok => exact .working hentered hstreams hok
  | failing hentered hleft hstreams hposted hok =>
      exact .failing hentered hleft hstreams hposted hok
  | ended hentered hleft hposted => exact .ended hentered hleft hposted

/-- What completes for an invocation that is not finished deletes nothing, and finishes no
invocation if it succeeded. -/
theorem Proceeds.of_not_finished {k : ℕ} {result : Bool}
    (hproceeds : Proceeds s k result s') (hstreams : ∀ j, s.state j ≠ some .finished) :
    s'.history = s.history ∧ s'.posted = s.posted ∧ s'.running = s.running ∧
      (result = true → ∀ j, s'.state j ≠ some .finished) := by
  cases hproceeds with
  | dangling | written => exact ⟨rfl, rfl, rfl, fun _ => hstreams⟩
  | accepted =>
      refine ⟨rfl, rfl, rfl, fun _ j => ?_⟩
      simp only [state_subscribe, state_setState, state_startListening]
      split
      · simp
      · split
        · simp
        · exact hstreams j
  | refused | broken => exact ⟨rfl, rfl, rfl, fun hresult => absurd hresult (by simp)⟩
  | deleted _ hstate => exact absurd hstate (hstreams k)

/-- The context executes a task, of which the last one only can have failed. -/
theorem Phase.turn {entered k : ℕ} {result : Bool} {rest : List (ℕ × Bool)}
    (h : s.Phase entered) (hposted : s.posted = (k, result) :: rest)
    (hproceeds : Proceeds ({ s with posted := rest }.record (.completion k)) k result s') :
    s'.Phase entered ∧ s'.history = .completion k :: s.history := by
  cases h with
  | working hentered hstreams hok =>
      obtain ⟨hhistory, hrest, hrunning, hlive⟩ := hproceeds.of_not_finished hstreams
      have hresult : result = true := hok (k, result) (by simp [hposted])
      refine ⟨.working ?_ (hlive hresult) ?_, hhistory⟩
      · rw [hrunning]
        exact hentered
      · rw [hrest]
        exact fun task htask => hok task (by simp [hposted, show task ∈ rest from htask])
  | @failing tasks j hentered hleft hstreams hlast hok =>
      obtain ⟨hhistory, hrest, hrunning, hlive⟩ := hproceeds.of_not_finished hstreams
      refine ⟨?_, hhistory⟩
      rw [hlast] at hposted
      cases tasks with
      | nil =>
          obtain ⟨-, rfl⟩ := List.cons_eq_cons.mp hposted
          exact .ended hentered (hrunning.trans hleft) hrest
      | cons task tasks =>
          obtain ⟨rfl, rfl⟩ := List.cons_eq_cons.mp hposted
          exact .failing hentered (hrunning.trans hleft) (hlive (hok (k, result) (by simp))) hrest
            fun task htask => hok task (by simp [htask])
  | ended _ _ hnone => exact absurd (hnone.symm.trans hposted) (by simp)

/-- What has happened to a service whose executor entered its loop once: its phase, and
that nothing was deleted. -/
structure EnteredOnce (entered : ℕ) (s : Service ω) : Prop where
  phase : s.Phase entered
  kept : ∀ entry ∈ s.history, ∀ k, ¬ Entry.Deletes k entry

theorem enteredOnce_start : (start : Service ω).EnteredOnce 0 where
  phase := by
    refine .working (by simp [start, startListening, issue, setState]) (fun k => ?_) ?_
    · rw [start, state_startListening]
      split <;> simp
    · exact List.forall_mem_nil _
  kept := List.forall_mem_nil _

theorem Step.enteredOnce {entered : ℕ} {event : Event υ} (hstep : Step encode s event s')
    (h : s.EnteredOnce entered)
    (honce : entered + (if event.isRun then 1 else 0) ≤ 1) :
    s'.EnteredOnce (entered + if event.isRun then 1 else 0) := by
  cases hstep with
  | run =>
      refine ⟨?_, h.kept⟩
      have hzero : entered = 0 := by simpa [Event.isRun] using honce
      -- Only a loop that was not entered yet can be entered.
      cases h.phase with
      | working _ hstreams hok => exact .working (fun _ => by simp [Event.isRun]) hstreams hok
      | failing hentered | ended hentered => omega
  | next ok hi hrunning =>
      refine ⟨?_, h.kept⟩
      cases h.phase with
      | working hentered hstreams hok =>
          cases ok with
          | true =>
              refine .working (fun _ => hentered hrunning) hstreams fun task htask => ?_
              rcases List.mem_append.mp htask with hold | hnew
              · exact hok task hold
              · rw [List.mem_singleton.mp hnew]
          | false => exact .failing (hentered hrunning) rfl hstreams rfl hok
      | failing _ hleft | ended _ hleft => exact absurd (hrunning.symm.trans hleft) (by simp)
  | turn hposted hproceeds =>
      obtain ⟨hphase, hhistory⟩ := h.phase.turn hposted hproceeds
      refine ⟨hphase, ?_⟩
      rw [hhistory]
      exact List.forall_mem_cons.mpr ⟨fun _ => id, h.kept⟩
  | update updates =>
      refine ⟨h.phase.handleUpdate updates, ?_⟩
      rw [handleUpdate_eq]
      intro entry hentry k
      rcases List.mem_append.mp hentry with hnew | hold
      · obtain ⟨j, -, rfl⟩ := List.mem_map.mp (List.mem_reverse.mp hnew)
        exact id
      · exact h.kept entry hold k

/-- Where nothing is deleted, everything is safe. -/
theorem always_safe_of_kept {history : List Entry}
    (hkept : ∀ entry ∈ history, ∀ k, ¬ Entry.Deletes k entry) :
    Machine.Always Entry.Safe history := by
  induction history with
  | nil => trivial
  | cons entry past ih =>
      obtain ⟨hentry, hpast⟩ := List.forall_mem_cons.mp hkept
      refine ⟨?_, ih hpast⟩
      cases entry with
      | completion k | update k => exact fun entry hmem => hpast entry hmem k
      | deleted k others => exact absurd rfl (hentry k)

/-- In every run of a service whose executor enters its loop once, an invocation deletes
itself at most once and with nothing outstanding, and neither a completion nor an update
reaches it afterwards.  In fact none deletes itself: the failure that finishes the first one
is the last completion that the loop takes from the queue. -/
theorem deletions_safe {events : List (Event υ)}
    (honce : events.countP Event.isRun ≤ 1)
    (hrun : Machine.run (step encode) start events = some s) :
    Machine.Always Entry.Safe s.history ∧
      ∀ entry ∈ s.history, ∀ k, ¬ Entry.Deletes k entry := by
  have hinv := Machine.run_history
    (fun events s => events.countP Event.isRun ≤ 1 →
      s.EnteredOnce (events.countP Event.isRun))
    (fun _ => enteredOnce_start)
    (fun events s event s' ih hstep honce => by
      rw [List.countP_append, List.countP_singleton] at honce ⊢
      exact (step_cases hstep).enteredOnce (ih (by omega)) honce) hrun
  have hkept := (hinv honce).kept
  exact ⟨always_safe_of_kept hkept, hkept⟩

/-- Two updates are being written to a client when the first write fails: the stream is
cancelled, and the third update is not written to it. -/
def brokenStreamRun : List (Event String) :=
  [.run, .next 0 true, .turn, .update ["first"], .update ["second"], .next 1 false, .turn,
    .update ["third"]]

theorem deletions_safe_brokenStreamRun :
    ∃ s, Machine.run (step (id : String → String)) start brokenStreamRun = some s ∧
      Machine.Always Entry.Safe s.history ∧
        ∀ entry ∈ s.history, ∀ k, ¬ Entry.Deletes k entry := by
  obtain ⟨s, hrun⟩ : ∃ s,
      Machine.run (step (id : String → String)) start brokenStreamRun = some s :=
    Option.isSome_iff_exists.mp (by decide)
  exact ⟨s, hrun, deletions_safe (by decide) hrun⟩

/-- A loop that were entered again would bring the failure of the second write to an
invocation that waits for the end of its stream. -/
example : ∃ s, Machine.run (step (id : String → String)) start
    [.run, .next 0 true, .turn, .update ["first"], .update ["second"], .next 1 false, .turn,
      .run, .next 1 false, .turn] = some s ∧ ¬ Machine.Always Entry.Safe s.history :=
  Machine.exists_run (by decide)

end Service
end Airmap.Monitor.Grpc
