import PlatformSdk.Cmd.SimulateScenario
import PlatformSdk.Machine.Chain
import PlatformSdk.Machine.Simulation

/-!
# The chain of a participant

What a participant of a scenario is taken through, on its own: a machine whose events are
the answers to the calls for him.  Each call is made once at most, with the token and the
flight that earlier answers brought.
-/

namespace Airmap.Cmd.SimulateScenario

open Machine (run)
open Util.Scenario (Participant)

/-! ## One chain -/

/-- The callback is given an error. -/
def Reply.isFailure : Reply → Bool
  | .failure => true
  | .authentication _ | .status | .flight _ | .monitor _ | .key _ | .ended | .fired => false

/-- What is collected of a reply. -/
def Reply.collect : Reply → Participant → Participant
  | .authentication id', p => { p with authentication := some id' }
  | .flight flight', p => { p with flight := some flight' }
  | .monitor monitor', p => { p with monitor := some monitor' }
  | .key key', p => { p with encryptionKey := some key' }
  | .failure, p | .status, p | .ended, p | .fired, p => p

/-- What is called next for a participant once a call was answered, if the reply is one that
the call can have and the first coordinate that is read then is there. -/
def Call.next (duration : ℕ) (p : Participant) : Call → Reply → Option (List Call)
  | .authenticateWithPassword _, .authentication _
  | .authenticateAnonymously _, .authentication _ =>
      p.ring.head?.map fun first =>
        [.getStatusByPolygon first.latitude first.longitude p.geometry true,
          .createFlightByPolygon (p.authentication.getD default) p.aircraft first.latitude
            first.longitude p.geometry]
  | .getStatusByPolygon _ _ _ _, .status => some []
  | .createFlightByPolygon _ _ _ _ _, .flight _ =>
      some [.monitorTraffic (p.flight.getD default).id (p.authentication.getD default),
        .startFlightCommunications (p.authentication.getD default) (p.flight.getD default).id,
        .scheduleIn duration]
  | .monitorTraffic _ _, .monitor _ => some []
  | .startFlightCommunications _ _, .key _ => some []
  | .scheduleIn _, .fired =>
      some [.endFlightCommunications (p.authentication.getD default)
        (p.flight.getD default).id]
  | .endFlightCommunications _ _, .ended =>
      some [.endFlight (p.authentication.getD default) (p.flight.getD default).id]
  | .endFlight _ _, .ended => some []
  | _, .failure => some []
  | _, _ => none

/-- A participant, the calls for him that wait for an answer, and those that were answered,
the last one first. -/
structure Chain where
  participant : Participant
  pending : List Call
  history : List (Call × Reply) := []

namespace Chain

/-- The call that a participant is authenticated with. -/
def authenticate (deviceName : String) (p : Participant) : Call :=
  match p.user with
  | some user =>
      .authenticateWithPassword
        { clientId := user.clientId
          deviceId := deviceName
          username := user.username
          password := user.password }
  | none => .authenticateAnonymously p.pilot

/-- The chain of a participant in the beginning. -/
def start (deviceName : String) (p : Participant) : Chain where
  participant := p
  pending := [authenticate deviceName p]

/-- One of the calls is answered. -/
def step (duration : ℕ) (c : Chain) (event : Event) : Option Chain :=
  match c.pending[event.i]? with
  | none => none
  | some call =>
      let p := event.reply.collect c.participant
      (call.next duration p event.reply).map fun calls =>
        { participant := p
          pending := c.pending.eraseIdx event.i ++ calls
          history := (call, event.reply) :: c.history }

end Chain

/-! ## What a chain requests -/

/-- The kinds of calls. -/
inductive Kind where
  | authentication
  | status
  | creation
  | monitoring
  | startComms
  | timer
  | endComms
  | endFlight
  deriving DecidableEq

namespace Kind

/-- The kinds that are called next once a call succeeded. -/
def next : Kind → List Kind
  | .authentication => [.status, .creation]
  | .creation => [.monitoring, .startComms, .timer]
  | .timer => [.endComms]
  | .endComms => [.endFlight]
  | .status | .monitoring | .startComms | .endFlight => []

/-- The kind that has to succeed first. -/
def after : Kind → Option Kind
  | .authentication => none
  | .status | .creation => some .authentication
  | .monitoring | .startComms | .timer => some .creation
  | .endComms => some .timer
  | .endFlight => some .endComms

def rank : Kind → ℕ
  | .authentication => 0
  | .status | .creation => 1
  | .monitoring | .startComms | .timer => 2
  | .endComms => 3
  | .endFlight => 4

theorem count_next (j k : Kind) : j.next.count k = if k.after = some j then 1 else 0 := by
  cases j <;> cases k <;> rfl

theorem rank_lt (j k : Kind) (h : k.after = some j) : j.rank < k.rank := by
  cases k <;> cases h <;> decide

end Kind

def Call.kind : Call → Kind
  | .authenticateWithPassword _ | .authenticateAnonymously _ => .authentication
  | .getStatusByPolygon _ _ _ _ => .status
  | .createFlightByPolygon _ _ _ _ _ => .creation
  | .monitorTraffic _ _ => .monitoring
  | .startFlightCommunications _ _ => .startComms
  | .scheduleIn _ => .timer
  | .endFlightCommunications _ _ => .endComms
  | .endFlight _ _ => .endFlight

/-- The kind of the call that a value comes from, where something is collected of it. -/
def Reply.kind : Reply → Option Kind
  | .authentication _ => some .authentication
  | .flight _ => some .creation
  | .monitor _ => some .monitoring
  | .key _ => some .startComms
  | .failure | .status | .ended | .fired => none

theorem Call.kind_next {duration : ℕ} {p : Participant} {call : Call} {reply : Reply}
    {calls : List Call} (h : call.next duration p reply = some calls) :
    calls.map Call.kind = if (!reply.isFailure) = true then call.kind.next else [] := by
  cases call <;> cases reply <;>
    simp only [Call.next, Option.some.injEq, reduceCtorEq, Option.map_eq_some_iff] at h <;>
    first
      | (subst h; rfl)
      | (obtain ⟨first, -, rfl⟩ := h; rfl)

theorem Call.kind_of_next {duration : ℕ} {p : Participant} {call : Call} {reply : Reply}
    {calls : List Call} (h : call.next duration p reply = some calls) {k : Kind}
    (hk : reply.kind = some k) : call.kind = k ∧ reply.isFailure = false := by
  cases call <;> cases reply <;> simp only [Call.next, reduceCtorEq] at h <;>
    simp only [Reply.kind, Option.some.injEq, reduceCtorEq] at hk <;>
    exact ⟨hk, rfl⟩

/-- To collect a reply twice is to collect it once. -/
theorem Reply.collect_collect (reply : Reply) (p : Participant) :
    reply.collect (reply.collect p) = reply.collect p := by
  cases reply <;> rfl

/-- What is collected of values of different kinds is kept apart. -/
theorem Reply.collect_comm {reply reply' : Reply} (h : ∀ k, reply.kind = some k →
    reply'.kind ≠ some k) (p : Participant) :
    reply'.collect (reply.collect p) = reply.collect (reply'.collect p) := by
  cases reply <;> cases reply' <;> first | rfl | exact absurd rfl (h _ rfl)

namespace Chain

variable {duration : ℕ} {c c' : Chain} {event : Event}

theorem step_cases (hstep : c.step duration event = some c') :
    ∃ call calls, c.pending[event.i]? = some call ∧
      call.next duration (event.reply.collect c.participant) event.reply = some calls ∧
      c' = { participant := event.reply.collect c.participant
             pending := c.pending.eraseIdx event.i ++ calls
             history := (call, event.reply) :: c.history } := by
  simp only [step] at hstep
  split at hstep
  · cases hstep
  · next call hcall =>
      obtain ⟨calls, hcalls, rfl⟩ := Option.map_eq_some_iff.mp hstep
      exact ⟨call, calls, hcall, hcalls, rfl⟩

/-- The kind of a call that was answered, and whether it succeeded. -/
def answerKind (answer : Call × Reply) : Kind × Bool := (answer.1.kind, !answer.2.isFailure)

/-- How many calls of a kind were made. -/
def made (c : Chain) (k : Kind) : ℕ :=
  Machine.made (c.pending.map Call.kind) (c.history.map answerKind) k

/-- A token came back from the authentication. -/
def HasToken (history : List (Call × Reply)) (token : String) : Prop :=
  ∃ call, (call, .authentication token) ∈ history

/-- The participant has what replies brought. -/
def Keeps (p : Participant) (history : List (Call × Reply)) : Prop :=
  ∀ answer ∈ history, answer.2.collect p = p

/-- A flight with this id was created. -/
def HasFlightId (history : List (Call × Reply)) (flightId : String) : Prop :=
  ∃ call created, (call, Reply.flight created) ∈ history ∧ created.id = flightId

end Chain

/-- What a call is made with was brought by earlier replies. -/
def Call.Brought (history : List (Call × Reply)) : Call → Prop
  | .authenticateWithPassword _ | .authenticateAnonymously _ | .getStatusByPolygon _ _ _ _ =>
      True
  | .createFlightByPolygon authorization _ _ _ _ => Chain.HasToken history authorization
  | .scheduleIn _ => ∃ authorization flight, Chain.HasToken history authorization ∧
      Chain.HasFlightId history flight
  | .monitorTraffic flight authorization | .startFlightCommunications authorization flight
  | .endFlightCommunications authorization flight | .endFlight authorization flight =>
      Chain.HasToken history authorization ∧ Chain.HasFlightId history flight

namespace Chain

variable {duration : ℕ} {c c' : Chain} {event : Event}

/-- What holds of a chain at any time. -/
structure IsSound (c : Chain) : Prop where
  follows : Machine.Follows Kind.after [.authentication] (c.pending.map Call.kind)
    (c.history.map answerKind)
  taken : ∀ answer ∈ c.history, ∀ k, answer.2.kind = some k →
    answer.1.kind = k ∧ answer.2.isFailure = false
  kept : Keeps c.participant c.history
  brought : ∀ call ∈ c.pending ++ c.history.map Prod.fst, call.Brought c.history

/-- Each call is made at most once. -/
theorem IsSound.made_le_one (h : c.IsSound) (k : Kind) : c.made k ≤ 1 := by
  refine Machine.Follows.made_le_one h.follows Kind.rank Kind.rank_lt ?_ k
  intro k
  cases k <;> decide

theorem isSound_start (deviceName : String) (p : Participant) :
    (start deviceName p).IsSound := by
  have hkind : (authenticate deviceName p).kind = .authentication := by
    rw [authenticate]
    cases p.user with
    | none => rfl
    | some user => rfl
  have hbrought : (authenticate deviceName p).Brought [] := by
    rw [authenticate]
    cases p.user with
    | none => trivial
    | some user => trivial
  refine ⟨?_, by simp [start], by simp [start, Keeps], ?_⟩
  · simp only [start, List.map_cons, List.map_nil, hkind]
    exact Machine.follows_initial Kind.after [.authentication]
  · simpa [start] using hbrought

theorem HasToken.mono {history history' : List (Call × Reply)} {token : String}
    (h : HasToken history token) (hsub : history ⊆ history') : HasToken history' token := by
  obtain ⟨call, hmem⟩ := h
  exact ⟨call, hsub hmem⟩

theorem HasFlightId.mono {history history' : List (Call × Reply)} {flightId : String}
    (h : HasFlightId history flightId) (hsub : history ⊆ history') :
    HasFlightId history' flightId := by
  obtain ⟨call, created, hmem, hid⟩ := h
  exact ⟨call, created, hsub hmem, hid⟩

end Chain

theorem Call.Brought.mono {history history' : List (Call × Reply)} {call : Call}
    (h : call.Brought history) (hsub : history ⊆ history') : call.Brought history' := by
  cases call with
  | authenticateWithPassword | authenticateAnonymously | getStatusByPolygon => trivial
  | createFlightByPolygon => exact Chain.HasToken.mono h hsub
  | scheduleIn =>
      obtain ⟨authorization, flight, htoken, hflight⟩ := h
      exact ⟨authorization, flight, htoken.mono hsub, hflight.mono hsub⟩
  | monitorTraffic | startFlightCommunications | endFlightCommunications | endFlight =>
      exact ⟨h.1.mono hsub, h.2.mono hsub⟩

namespace Chain.Keeps

variable {p : Participant} {history : List (Call × Reply)}

theorem authentication (h : Keeps p history) {token : String}
    (htoken : HasToken history token) : p.authentication = some token := by
  obtain ⟨call, hmem⟩ := htoken
  rw [← h _ hmem]
  rfl

theorem flight (h : Keeps p history) {flightId : String}
    (hflight : HasFlightId history flightId) : (p.flight.getD default).id = flightId := by
  obtain ⟨call, created, hmem, rfl⟩ := hflight
  rw [← h _ hmem]
  rfl

/-- What is called with the token and the flight of the participant. -/
theorem hasToken (h : Keeps p history) {token : String} (htoken : HasToken history token) :
    HasToken history (p.authentication.getD default) := by
  rw [h.authentication htoken, Option.getD_some]
  exact htoken

theorem hasFlightId (h : Keeps p history) {flightId : String}
    (hflight : HasFlightId history flightId) :
    HasFlightId history (p.flight.getD default).id := by
  rw [h.flight hflight]
  exact hflight

end Chain.Keeps

/-- The next calls are made with what the reply and earlier ones brought. -/
theorem Call.brought_next {duration : ℕ} {p : Participant} {call : Call} {reply : Reply}
    {calls : List Call} {history : List (Call × Reply)} (hcall : call.Brought history)
    (hkeeps : Chain.Keeps p ((call, reply) :: history))
    (hnext : call.next duration p reply = some calls) :
    ∀ call' ∈ calls, call'.Brought ((call, reply) :: history) := by
  have hbrought := hcall.mono (List.subset_cons_self (call, reply) history)
  have hmem : (call, reply) ∈ (call, reply) :: history := List.mem_cons_self
  cases call with
  | authenticateWithPassword | authenticateAnonymously =>
      cases reply with
      | authentication token =>
          obtain ⟨first, -, rfl⟩ := Option.map_eq_some_iff.mp hnext
          have htoken := hkeeps.hasToken ⟨_, hmem⟩
          simpa [Call.Brought] using htoken
      | _ => cases hnext <;> simp
  | createFlightByPolygon authorization =>
      cases reply with
      | flight created =>
          cases hnext
          have htoken := hkeeps.hasToken hbrought
          have hflight := hkeeps.hasFlightId ⟨_, created, hmem, rfl⟩
          simp only [List.mem_cons, List.not_mem_nil, or_false, forall_eq_or_imp, forall_eq]
          exact ⟨⟨htoken, hflight⟩, ⟨htoken, hflight⟩, _, _, htoken, hflight⟩
      | _ => cases hnext <;> simp
  | scheduleIn =>
      obtain ⟨authorization, flightId, htoken, hflight⟩ := hbrought
      cases reply with
      | fired =>
          cases hnext
          simp only [List.mem_singleton, forall_eq]
          exact ⟨hkeeps.hasToken htoken, hkeeps.hasFlightId hflight⟩
      | _ => cases hnext <;> simp
  | endFlightCommunications =>
      cases reply with
      | ended =>
          cases hnext
          simp only [List.mem_singleton, forall_eq]
          exact ⟨hkeeps.hasToken hbrought.1, hkeeps.hasFlightId hbrought.2⟩
      | _ => cases hnext <;> simp
  | getStatusByPolygon | monitorTraffic | startFlightCommunications | endFlight =>
      cases reply <;> cases hnext <;> simp

namespace Chain

variable {duration : ℕ} {c c' : Chain} {event : Event}

/-- Nothing of the kind of a call that waits was collected before. -/
theorem IsSound.kind_ne (h : c.IsSound) {call : Call} {reply : Reply} {calls : List Call}
    {p : Participant} (hcall : call ∈ c.pending) (hnext : call.next duration p reply = some calls)
    {answer : Call × Reply} (hanswer : answer ∈ c.history) (k : Kind)
    (hk : reply.kind = some k) : answer.2.kind ≠ some k := by
  intro hk'
  have hmade : Machine.made (c.pending.map Call.kind) (c.history.map answerKind) k ≤ 1 :=
    h.made_le_one k
  have hle := Machine.pending_add_succeeded_le (c.pending.map Call.kind)
    (c.history.map answerKind) k
  have hpending : 0 < (c.pending.map Call.kind).count k := by
    rw [List.count_pos_iff, ← (Call.kind_of_next hnext hk).1]
    exact List.mem_map_of_mem hcall
  have hsucceeded : 0 < Machine.succeeded (c.history.map answerKind) k := by
    obtain ⟨hkind, hfailure⟩ := h.taken answer hanswer k hk'
    have heq : answerKind answer = (k, true) := by rw [answerKind, hkind, hfailure]; rfl
    rw [Machine.succeeded, List.count_pos_iff, ← heq]
    exact List.mem_map_of_mem hanswer
  omega

theorem IsSound.step (h : c.IsSound) (hstep : c.step duration event = some c') :
    c'.IsSound := by
  obtain ⟨call, calls, hcall, hnext, rfl⟩ := step_cases hstep
  have hpending := List.mem_of_getElem? hcall
  have hkept : Keeps (event.reply.collect c.participant) ((call, event.reply) :: c.history) := by
    intro answer hanswer
    rcases List.mem_cons.mp hanswer with rfl | hanswer
    · exact Reply.collect_collect _ _
    · rw [Reply.collect_comm (h.kind_ne hpending hnext hanswer), h.kept answer hanswer]
  refine ⟨?_, ?_, hkept, ?_⟩
  · have hkind : (c.pending.map Call.kind)[event.i]? = some call.kind := by
      rw [List.getElem?_map, hcall, Option.map_some]
    have hfollows := h.follows.step Kind.count_next hkind !event.reply.isFailure
    rw [List.map_append, Call.kind_next hnext, ← List.eraseIdx_map]
    exact hfollows
  · intro answer hanswer k hk
    rcases List.mem_cons.mp hanswer with rfl | hanswer
    · exact Call.kind_of_next hnext hk
    · exact h.taken answer hanswer k hk
  · intro call' hcall'
    have hbrought : ∀ call'' ∈ c.pending ++ c.history.map Prod.fst,
        call''.Brought ((call, event.reply) :: c.history) :=
      fun call'' hmem => (h.brought call'' hmem).mono (List.subset_cons_self _ _)
    simp only [List.map_cons, List.mem_append, List.mem_cons] at hcall'
    rcases hcall' with (hcall' | hcall') | rfl | hcall'
    · exact hbrought call' (List.mem_append_left _ (List.mem_of_mem_eraseIdx hcall'))
    · exact Call.brought_next (h.brought call (List.mem_append_left _ hpending)) hkept hnext
        call' hcall'
    · exact hbrought call' (List.mem_append_left _ hpending)
    · exact hbrought call' (List.mem_append_right _ hcall')

theorem isSound_run {deviceName : String} {p : Participant} {events : List Event}
    (hrun : run (step duration) (start deviceName p) events = some c) : c.IsSound :=
  Machine.invariant_run IsSound (fun _ _ _ h _ hstep => h.step hstep)
    (isSound_start deviceName p) (Machine.meets_true _ _) hrun

end Chain

end Airmap.Cmd.SimulateScenario
