import Mathlib.Data.List.Nodup
import Mathlib.Data.List.Perm.Basic
import Mathlib.Logic.Function.Basic
import PlatformSdk.Machine.Attempt
import PlatformSdk.Machine.Run
import PlatformSdk.Net.Http.Response

/-!
# The bookkeeping of the logging requester

`LoggingRequester` remembers when each request started, gives the request on with a
function object of its own, and forgets the request when that is called.  What it logs
is left out.

A function of the requester does nothing after it gave the request on, and its
function object does nothing after it called the user's callback.  Calls that happen
inside of these two come after what was done before, as any other event.
-/

namespace Airmap.Net.Http

open Machine

/-- The arguments of a function of `Requester`, without the callback. -/
inductive Requester.Call where
  | delete_ (path : String) (query headers : List (String × String))
  | get (path : String) (query headers : List (String × String))
  | patch (path : String) (headers : List (String × String)) (body : String)
  | post (path : String) (headers : List (String × String)) (body : String)
  deriving DecidableEq

/-- What the function object captures that the next requester is given. -/
structure Completion (κ : Type*) where
  uuid : String
  cb : κ
  deriving DecidableEq

/-- `LoggingRequester`.  `next` has what the next requester was given and has not
completed, `calls` the calls of the users' callbacks. -/
structure LoggingRequester (δ κ : Type*) where
  requestStartTimestamps : String → Option δ := fun _ => none
  next : List (Requester.Call × Completion κ) := []
  calls : List (κ × Outcome Response) := []

variable {δ κ : Type*}

namespace LoggingRequester

/-- What the four functions have in common, with the `uuid` that is generated and the
time of the clock. -/
def start (call : Requester.Call) (cb : κ) (uuid : String) (now : δ)
    (r : LoggingRequester δ κ) : LoggingRequester δ κ :=
  { r with
    requestStartTimestamps := Function.update r.requestStartTimestamps uuid (some now)
    next := r.next ++ [(call, ⟨uuid, cb⟩)] }

def delete_ (path : String) (query headers : List (String × String)) (cb : κ)
    (uuid : String) (now : δ) (r : LoggingRequester δ κ) : LoggingRequester δ κ :=
  r.start (.delete_ path query headers) cb uuid now

def get (path : String) (query headers : List (String × String)) (cb : κ)
    (uuid : String) (now : δ) (r : LoggingRequester δ κ) : LoggingRequester δ κ :=
  r.start (.get path query headers) cb uuid now

def patch (path : String) (headers : List (String × String)) (body : String) (cb : κ)
    (uuid : String) (now : δ) (r : LoggingRequester δ κ) : LoggingRequester δ κ :=
  r.start (.patch path headers body) cb uuid now

def post (path : String) (headers : List (String × String)) (body : String) (cb : κ)
    (uuid : String) (now : δ) (r : LoggingRequester δ κ) : LoggingRequester δ κ :=
  r.start (.post path headers body) cb uuid now

/-- The function object is called, the same one in all four functions.  The result of
`find` is used without a check. -/
def complete (completion : Completion κ) (result : Outcome Response)
    (r : LoggingRequester δ κ) : Attempt (LoggingRequester δ κ) :=
  match r.requestStartTimestamps completion.uuid with
  | none => .undefined
  | some _ => .returns
      { r with
        requestStartTimestamps :=
          Function.update r.requestStartTimestamps completion.uuid none
        calls := r.calls ++ [(completion.cb, result)] }

end LoggingRequester

/-- A function of the requester is called, or the next requester completes the request
at a place among those that it was given. -/
inductive RequesterEvent (δ κ : Type*) where
  | called (call : Requester.Call) (cb : κ) (uuid : String) (now : δ)
  | completed (i : ℕ) (result : Outcome Response)

namespace RequesterEvent

def uuids : RequesterEvent δ κ → List String
  | called _ _ uuid _ => [uuid]
  | completed _ _ => []

def callbacks : RequesterEvent δ κ → List κ
  | called _ cb _ _ => [cb]
  | completed _ _ => []

def results : RequesterEvent δ κ → List (Outcome Response)
  | called _ _ _ _ => []
  | completed _ result => [result]

end RequesterEvent

namespace LoggingRequester

/-- The requester acts on an event; `none` where there is nothing to complete, or where
nothing can be said about what happens. -/
def step (r : LoggingRequester δ κ) : RequesterEvent δ κ → Option (LoggingRequester δ κ)
  | .called (.delete_ path query headers) cb uuid now =>
      some (r.delete_ path query headers cb uuid now)
  | .called (.get path query headers) cb uuid now =>
      some (r.get path query headers cb uuid now)
  | .called (.patch path headers body) cb uuid now =>
      some (r.patch path headers body cb uuid now)
  | .called (.post path headers body) cb uuid now =>
      some (r.post path headers body cb uuid now)
  | .completed i result =>
      match r.next[i]? with
      | none => none
      | some (_, completion) =>
          match ({ r with next := r.next.eraseIdx i }).complete completion result with
          | .returns r' => some r'
          | _ => none

theorem step_called (r : LoggingRequester δ κ) (call : Requester.Call) (cb : κ)
    (uuid : String) (now : δ) :
    r.step (.called call cb uuid now) = some (r.start call cb uuid now) := by
  cases call <;> rfl

theorem step_completed {r : LoggingRequester δ κ} {i : ℕ} {call : Requester.Call}
    {completion : Completion κ} {time : δ} (hnext : r.next[i]? = some (call, completion))
    (htime : r.requestStartTimestamps completion.uuid = some time)
    (result : Outcome Response) :
    r.step (.completed i result) = some
      { requestStartTimestamps :=
          Function.update r.requestStartTimestamps completion.uuid none
        next := r.next.eraseIdx i
        calls := r.calls ++ [(completion.cb, result)] } := by
  rw [step, hnext]
  dsimp only
  rw [complete]
  dsimp only
  rw [htime]

end LoggingRequester

/-! ## What is to be remembered -/

/-- A request that is in flight, with the time at which it was made. -/
structure InFlight (δ κ : Type*) where
  call : Requester.Call
  completion : Completion κ
  started : δ
  deriving DecidableEq

/-- The requests in flight and the calls of the users' callbacks, as they follow from the
events alone: each request is completed once, and its callback is called with the
result. -/
structure Traffic (δ κ : Type*) where
  inFlight : List (InFlight δ κ) := []
  calls : List (κ × Outcome Response) := []

namespace Traffic

def step (t : Traffic δ κ) : RequesterEvent δ κ → Option (Traffic δ κ)
  | .called call cb uuid now =>
      some { t with inFlight := t.inFlight ++ [⟨call, ⟨uuid, cb⟩, now⟩] }
  | .completed i result =>
      match t.inFlight[i]? with
      | none => none
      | some request => some
          { inFlight := t.inFlight.eraseIdx i
            calls := t.calls ++ [(request.completion.cb, result)] }

theorem step_completed_eq_some_iff {t t' : Traffic δ κ} {i : ℕ} {result : Outcome Response} :
    t.step (.completed i result) = some t' ↔
      ∃ request, t.inFlight[i]? = some request ∧
        t' = { inFlight := t.inFlight.eraseIdx i
               calls := t.calls ++ [(request.completion.cb, result)] } := by
  rw [step]
  cases t.inFlight[i]? with
  | none => simp
  | some request => simp [eq_comm]

/-- The callbacks of all requests: each was called once or belongs to one request that is
in flight. -/
def callbacks (t : Traffic δ κ) : List κ :=
  t.calls.map Prod.fst ++ t.inFlight.map (·.completion.cb)

theorem callbacks_step {t t' : Traffic δ κ} {e : RequesterEvent δ κ}
    (h : t.step e = some t') : t'.callbacks.Perm (t.callbacks ++ e.callbacks) := by
  cases e with
  | called call cb uuid now =>
      cases h
      simp [callbacks, RequesterEvent.callbacks]
  | completed i result =>
      obtain ⟨request, hrequest, rfl⟩ := step_completed_eq_some_iff.mp h
      obtain ⟨hi, rfl⟩ := List.getElem?_eq_some_iff.mp hrequest
      have hperm := (List.getElem_cons_eraseIdx_perm hi).map
        fun request : InFlight δ κ => request.completion.cb
      simpa [callbacks, RequesterEvent.callbacks] using
        hperm.append_left (t.calls.map Prod.fst)

theorem callbacks_run {t t' : Traffic δ κ} {es : List (RequesterEvent δ κ)}
    (h : run step t es = some t') :
    t'.callbacks.Perm (t.callbacks ++ es.flatMap RequesterEvent.callbacks) := by
  induction es generalizing t with
  | nil =>
      cases h
      simp
  | cons e es ih =>
      obtain ⟨next, hnext, hrest⟩ := run_cons h
      rw [List.flatMap_cons, ← List.append_assoc]
      exact (ih hrest).trans ((callbacks_step hnext).append_right _)

theorem results_run {t t' : Traffic δ κ} {es : List (RequesterEvent δ κ)}
    (h : run step t es = some t') :
    t'.calls.map Prod.snd = t.calls.map Prod.snd ++ es.flatMap RequesterEvent.results := by
  refine run_emits (fun _ => True) (fun t => t.calls.map Prod.snd) RequesterEvent.results
    ?_ trivial h
  intro t e t' _ hstep
  refine ⟨trivial, ?_⟩
  cases e with
  | called call cb uuid now =>
      cases hstep
      simp [RequesterEvent.results]
  | completed i result =>
      obtain ⟨request, -, rfl⟩ := step_completed_eq_some_iff.mp hstep
      simp [RequesterEvent.results]

/-- The uuids of the requests in flight. -/
def uuids (t : Traffic δ κ) : List String := t.inFlight.map (·.completion.uuid)

/-- No uuid is in use that is still to be generated, and none is in use twice. -/
theorem nodup_uuids_step {t t' : Traffic δ κ} {e : RequesterEvent δ κ} {later : List String}
    (hnodup : (t.uuids ++ (e.uuids ++ later)).Nodup) (h : t.step e = some t') :
    (t'.uuids ++ later).Nodup := by
  cases e with
  | called call cb uuid now =>
      cases h
      simpa [uuids, RequesterEvent.uuids] using hnodup
  | completed i result =>
      obtain ⟨request, -, rfl⟩ := step_completed_eq_some_iff.mp h
      have hsublist := (List.eraseIdx_sublist t.inFlight i).map
        fun request : InFlight δ κ => request.completion.uuid
      exact (hsublist.append_right later).nodup hnodup

end Traffic

/-! ## What is remembered -/

/-- The requester has given on the requests in flight, has called the callbacks of the
others and remembers when the requests in flight started. -/
structure Follows (r : LoggingRequester δ κ) (t : Traffic δ κ) : Prop where
  next : r.next = t.inFlight.map fun request => (request.call, request.completion)
  calls : r.calls = t.calls
  timestamps : ∀ uuid time, r.requestStartTimestamps uuid = some time ↔
    ∃ request ∈ t.inFlight, request.completion.uuid = uuid ∧ request.started = time

namespace Follows

variable {r : LoggingRequester δ κ} {t : Traffic δ κ}

theorem initial : Follows ({} : LoggingRequester δ κ) {} where
  next := rfl
  calls := rfl
  timestamps := by simp

theorem start (h : Follows r t) (call : Requester.Call) (cb : κ) {uuid : String}
    (hnew : uuid ∉ t.uuids) (now : δ) :
    Follows (r.start call cb uuid now)
      { t with inFlight := t.inFlight ++ [⟨call, ⟨uuid, cb⟩, now⟩] } where
  next := by
    rw [LoggingRequester.start, List.map_append, ← h.next]
    rfl
  calls := h.calls
  timestamps := by
    intro uuid' time
    rw [LoggingRequester.start]
    dsimp only
    by_cases heq : uuid' = uuid
    · subst heq
      have hother : ∀ request ∈ t.inFlight, request.completion.uuid ≠ uuid' :=
        fun request hmem heq => hnew (List.mem_map.mpr ⟨request, hmem, heq⟩)
      rw [Function.update_self, Option.some.injEq]
      constructor
      · rintro rfl
        exact ⟨_, List.mem_append_right _ (List.mem_singleton_self _), rfl, rfl⟩
      · rintro ⟨request, hmem, huuid, htime⟩
        rcases List.mem_append.mp hmem with hmem | hmem
        · exact absurd huuid (hother request hmem)
        · obtain rfl := List.mem_singleton.mp hmem
          exact htime
    · rw [Function.update_of_ne heq, h.timestamps]
      simp [Ne.symm heq]

/-- The entry of a request in flight is found. -/
theorem exists_timestamp (h : Follows r t) {request : InFlight δ κ}
    (hmem : request ∈ t.inFlight) :
    r.requestStartTimestamps request.completion.uuid = some request.started :=
  (h.timestamps _ _).mpr ⟨request, hmem, rfl, rfl⟩

theorem complete (h : Follows r t) (hnodup : t.uuids.Nodup) {i : ℕ}
    {request : InFlight δ κ} (hrequest : t.inFlight[i]? = some request)
    (result : Outcome Response) :
    ∃ r', r.step (.completed i result) = some r' ∧
      Follows r'
        { inFlight := t.inFlight.eraseIdx i
          calls := t.calls ++ [(request.completion.cb, result)] } := by
  obtain ⟨hi, rfl⟩ := List.getElem?_eq_some_iff.mp hrequest
  have hnext : r.next[i]? = some (t.inFlight[i].call, t.inFlight[i].completion) := by
    rw [h.next, List.getElem?_map, hrequest]
    rfl
  have hperm := List.getElem_cons_eraseIdx_perm hi
  have hothers : ∀ request ∈ t.inFlight.eraseIdx i,
      request.completion.uuid ≠ t.inFlight[i].completion.uuid := by
    intro request hmem heq
    have hdistinct := (hperm.map fun request : InFlight δ κ =>
      request.completion.uuid).nodup_iff.mpr hnodup
    exact (List.nodup_cons.mp hdistinct).1 (List.mem_map.mpr ⟨request, hmem, heq⟩)
  refine ⟨_, LoggingRequester.step_completed hnext
    (h.exists_timestamp (List.getElem_mem hi)) result, ?_, ?_, ?_⟩
  · dsimp only
    rw [h.next, List.eraseIdx_map]
  · dsimp only
    rw [h.calls]
  · intro uuid time
    dsimp only
    by_cases heq : uuid = t.inFlight[i].completion.uuid
    · subst heq
      rw [Function.update_self]
      constructor
      · intro hnone
        cases hnone
      · rintro ⟨request, hmem, huuid, -⟩
        exact absurd huuid (hothers request hmem)
    · rw [Function.update_of_ne heq, h.timestamps]
      constructor
      · rintro ⟨request, hmem, rfl, htime⟩
        rcases List.mem_cons.mp (hperm.mem_iff.mpr hmem) with rfl | hmem
        · exact absurd rfl heq
        · exact ⟨request, hmem, rfl, htime⟩
      · rintro ⟨request, hmem, hboth⟩
        exact ⟨request, List.mem_of_mem_eraseIdx hmem, hboth⟩

theorem step (h : Follows r t) {e : RequesterEvent δ κ} {t' : Traffic δ κ}
    (hnodup : (t.uuids ++ e.uuids).Nodup) (hstep : t.step e = some t') :
    ∃ r', r.step e = some r' ∧ Follows r' t' := by
  cases e with
  | called call cb uuid now =>
      cases hstep
      have hnew : uuid ∉ t.uuids := fun hmem =>
        (List.nodup_append.mp hnodup).2.2 uuid hmem uuid (List.mem_singleton_self uuid) rfl
      exact ⟨_, r.step_called call cb uuid now, h.start call cb hnew now⟩
  | completed i result =>
      obtain ⟨request, hrequest, rfl⟩ := Traffic.step_completed_eq_some_iff.mp hstep
      exact h.complete (List.nodup_append.mp hnodup).1 hrequest result

/-- The requester follows the requests for as long as no uuid is generated twice. -/
theorem run (h : Follows r t) {es : List (RequesterEvent δ κ)} {t' : Traffic δ κ}
    (hnodup : (t.uuids ++ es.flatMap RequesterEvent.uuids).Nodup)
    (hrun : Machine.run Traffic.step t es = some t') :
    ∃ r', Machine.run LoggingRequester.step r es = some r' ∧ Follows r' t' := by
  induction es generalizing r t with
  | nil =>
      cases hrun
      exact ⟨r, rfl, h⟩
  | cons e es ih =>
      obtain ⟨nextTraffic, hnextTraffic, hrest⟩ := run_cons hrun
      rw [List.flatMap_cons] at hnodup
      have hfirst : (t.uuids ++ e.uuids).Nodup := by
        rw [← List.append_assoc] at hnodup
        exact (List.nodup_append.mp hnodup).1
      obtain ⟨next, hnext, hfollows⟩ := h.step hfirst hnextTraffic
      obtain ⟨r', hr', hfollows⟩ :=
        ih hfollows (Traffic.nodup_uuids_step hnodup hnextTraffic) hrest
      refine ⟨r', ?_, hfollows⟩
      rw [Machine.run, hnext]
      exact hr'

/-- Nothing is remembered when nothing is in flight. -/
theorem timestamps_eq_none (h : Follows r t) (hnone : r.next = []) (uuid : String) :
    r.requestStartTimestamps uuid = none := by
  have hempty : t.inFlight = [] := List.map_eq_nil_iff.mp (h.next.symm.trans hnone)
  rw [Option.eq_none_iff_forall_ne_some]
  intro time htime
  obtain ⟨request, hmem, -⟩ := (h.timestamps uuid time).mp htime
  rw [hempty] at hmem
  cases hmem

/-- The function object of a request that was given on does what is expected of it. -/
theorem complete_returns (h : Follows r t) {pending : Requester.Call × Completion κ}
    (hmem : pending ∈ r.next) (result : Outcome Response) :
    ∃ r', r.complete pending.2 result = .returns r' := by
  rw [h.next] at hmem
  obtain ⟨request, hrequest, rfl⟩ := List.mem_map.mp hmem
  rw [LoggingRequester.complete, h.exists_timestamp hrequest]
  exact ⟨_, rfl⟩

end Follows

/-- After all calls and completions in any order, where no uuid is generated twice: what
is remembered are the requests in flight with the times at which they started, the entry
of each of them is found, each callback was called once with the result or belongs to a
request in flight, and nothing is remembered if nothing is in flight. -/
theorem loggingRequester_bookkeeping {es : List (RequesterEvent δ κ)} {t : Traffic δ κ}
    (hnodup : (es.flatMap RequesterEvent.uuids).Nodup)
    (hrun : Machine.run Traffic.step {} es = some t) :
    ∃ r, Machine.run LoggingRequester.step {} es = some r ∧
      (∀ uuid time, r.requestStartTimestamps uuid = some time ↔
        ∃ request ∈ t.inFlight, request.completion.uuid = uuid ∧ request.started = time) ∧
      (∀ pending ∈ r.next, ∀ result, ∃ r', r.complete pending.2 result = .returns r') ∧
      r.calls = t.calls ∧
      (r.calls.map Prod.fst ++ t.inFlight.map (·.completion.cb)).Perm
        (es.flatMap RequesterEvent.callbacks) ∧
      r.calls.map Prod.snd = es.flatMap RequesterEvent.results ∧
      (r.next = [] → ∀ uuid, r.requestStartTimestamps uuid = none) := by
  obtain ⟨r, hr, hfollows⟩ := Follows.initial.run hnodup hrun
  refine ⟨r, hr, hfollows.timestamps, fun _ hmem => hfollows.complete_returns hmem,
    hfollows.calls, ?_, ?_, hfollows.timestamps_eq_none⟩
  · rw [hfollows.calls]
    exact Traffic.callbacks_run hrun
  · rw [hfollows.calls]
    exact Traffic.results_run hrun

/-- Two requests at once, of which the second is over first. -/
def overtaking : List (RequesterEvent ℕ ℕ) :=
  [.called (.get "/a" [] []) 0 "first" 10, .called (.post "/b" [] "text") 1 "second" 20,
    .completed 1 (.error { message := "end of file" })]

theorem loggingRequester_bookkeeping_overtaking :
    (overtaking.flatMap RequesterEvent.uuids).Nodup ∧
      ∃ t, Machine.run Traffic.step {} overtaking = some t ∧
        ∃ r, Machine.run LoggingRequester.step {} overtaking = some r ∧
          r.calls = t.calls := by
  refine ⟨by decide, _, rfl, ?_⟩
  obtain ⟨r, hr, -, -, hcalls, -⟩ := loggingRequester_bookkeeping
    (show (overtaking.flatMap RequesterEvent.uuids).Nodup by decide) rfl
  exact ⟨r, hr, hcalls⟩

end Airmap.Net.Http
