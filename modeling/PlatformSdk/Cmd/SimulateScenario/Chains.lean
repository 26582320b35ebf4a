import PlatformSdk.Cmd.SimulateScenario.Chain

/-!
# A scenario is made of chains

All participants of a scenario share one list of requests, yet none of them sees another
one: a run of the scenario is a run of the chain of each participant.
-/

namespace Airmap.Cmd.SimulateScenario

open Machine (run)
open Util.Scenario (Participant)

/-- The call of a request for the participant. -/
def Request.callOf (i : ℕ) (request : Request) : Option Call :=
  if request.participant = i then some request.call else none

/-- The answer to a request for the participant. -/
def answerOf (i : ℕ) (answer : Request × Reply) : Option (Call × Reply) :=
  (answer.1.callOf i).map fun call => (call, answer.2)

variable {s s' : SimulateScenario} {request : Request} {reply : Reply} {event : Event}

/-- The chain of a participant of the scenario. -/
def chain (i : ℕ) (s : SimulateScenario) : Option Chain :=
  s.participants[i]?.map fun p =>
    { participant := p
      pending := s.pending.filterMap (Request.callOf i)
      history := s.history.filterMap (answerOf i) }

theorem participant_eq {i : ℕ} {p : Participant} (hp : s.participants[i]? = some p) :
    s.participant i = p := by
  rw [participant, List.getD_eq_getElem?_getD, hp, Option.getD_some]

theorem participant_issue (i j : ℕ) (call : Call) :
    (s.issue i call).participant j = s.participant j := rfl

/-- What a callback does to a scenario, apart from the key counter, the simulator and the
context. -/
structure Follows (s : SimulateScenario) (request : Request) (reply : Reply)
    (p : Participant) (s' : SimulateScenario) : Prop where
  participants : s'.participants = s.participants.modify request.participant reply.collect
  history : s'.history = s.history
  duration : s'.duration = s.duration
  pending : ∃ calls, request.call.next s.duration p reply = some calls ∧
    s'.pending = s.pending ++ calls.map (Request.mk request.participant)

theorem Follows.quiet {p : Participant} (hparticipants : s'.participants = s.participants)
    (hhistory : s'.history = s.history) (hduration : s'.duration = s.duration)
    (hpending : s'.pending = s.pending) (hcollect : reply.collect = id)
    (hnext : request.call.next s.duration p reply = some []) :
    Follows s request reply p s' where
  participants := by rw [hcollect, List.modify_id, hparticipants]
  history := hhistory
  duration := hduration
  pending := ⟨[], hnext, by rw [hpending, List.map_nil, List.append_nil]⟩

theorem follows_handleAuthenticatedResultFor {i : ℕ} {call : Call} {p : Participant}
    (hp : s.participants[i]? = some p) (token : String)
    (hcall : (∃ oauth, call = .authenticateWithPassword oauth) ∨
      ∃ pilot, call = .authenticateAnonymously pilot)
    (hring : p.ring ≠ []) :
    Follows s ⟨i, call⟩ (.authentication token) (Reply.collect (.authentication token) p)
      (s.handleAuthenticatedResultFor i token) := by
  have hparticipant := participant_eq
    (participants_collect (f := Reply.collect (.authentication token)) hp)
  obtain ⟨first, rest, hring⟩ := List.exists_cons_of_ne_nil hring
  have hhead : (Reply.collect (.authentication token) p).ring.head? = some first := by
    rw [show (Reply.collect (.authentication token) p).ring = p.ring from rfl, hring,
      List.head?_cons]
  have heq : s.handleAuthenticatedResultFor i token =
      ((s.collect i (Reply.collect (.authentication token))).requestFlightStatusFor
        i).requestCreateFlightFor i := rfl
  simp only [heq, requestFlightStatusFor, requestCreateFlightFor, issueWithFirst, authorization,
    participant_issue, hparticipant, hhead]
  refine ⟨rfl, rfl, rfl, ?_⟩
  rcases hcall with ⟨oauth, rfl⟩ | ⟨pilot, rfl⟩
  · simp only [Call.next, hhead, Option.map_some]
    exact ⟨_, rfl, List.append_assoc ..⟩
  · simp only [Call.next, hhead, Option.map_some]
    exact ⟨_, rfl, List.append_assoc ..⟩

theorem follows_handleCreateFlightResultFor {i : ℕ} {p : Participant} {created : Flight}
    {first second : String} {latitude longitude : Double} {geometry : Geometry}
    (hp : s.participants[i]? = some p) :
    Follows s ⟨i, .createFlightByPolygon first second latitude longitude geometry⟩
      (.flight created) (Reply.collect (.flight created) p)
      (s.handleCreateFlightResultFor i created) := by
  have hparticipant := participant_eq
    (participants_collect (f := Reply.collect (.flight created)) hp)
  have heq : s.handleCreateFlightResultFor i created =
      (((s.collect i (Reply.collect (.flight created))).requestTrafficMonitoringFor
        i).requestStartFlightCommsFor i).issue i (.scheduleIn s.duration) := rfl
  rw [heq]
  refine ⟨rfl, rfl, rfl, ?_⟩
  simp only [requestTrafficMonitoringFor, requestStartFlightCommsFor, flightId, authorization,
    participant_issue, hparticipant]
  exact ⟨_, rfl, by simp [issue, SimulateScenario.collect]⟩

/-- What follows a reply, as long as it is defined, is what follows it in the chain of the
participant. -/
theorem Callback.follows (h : Callback s request reply s') {p : Participant}
    (hp : s.participants[request.participant]? = some p) (hdefined : s.defined = true)
    (hdefined' : s'.defined = true) : Follows s request reply (reply.collect p) s' := by
  have hfinds := (h.defined_iff hdefined).mp hdefined'
  cases h with
  | @authenticatedWithPassword i oauth token =>
      have hring : (s.participant i).ring ≠ [] := hfinds
      rw [participant_eq hp] at hring
      exact follows_handleAuthenticatedResultFor hp token (.inl ⟨oauth, rfl⟩) hring
  | @authenticatedAnonymously i pilot token =>
      have hring : (s.participant i).ring ≠ [] := hfinds
      rw [participant_eq hp] at hring
      exact follows_handleAuthenticatedResultFor hp token (.inr ⟨pilot, rfl⟩) hring
  | status => exact .quiet rfl rfl rfl rfl rfl rfl
  | created => exact follows_handleCreateFlightResultFor hp
  | monitored => exact ⟨rfl, rfl, rfl, [], rfl, (List.append_nil _).symm⟩
  | @started i _ _ key =>
      obtain ⟨_, _, heq⟩ := handleStartFlightCommsResultFor_eq i key s
      rw [heq]
      exact ⟨rfl, rfl, rfl, [], rfl, (List.append_nil _).symm⟩
  | fired =>
      refine ⟨(List.modify_id _ _).symm, rfl, rfl, ?_⟩
      simp only [handleTimer, authorization, flightId, participant_eq hp]
      exact ⟨_, rfl, rfl⟩
  | endedComms =>
      refine ⟨(List.modify_id _ _).symm, rfl, rfl, ?_⟩
      simp only [handleEndFlightComms, authorization, flightId, participant_eq hp]
      exact ⟨_, rfl, rfl⟩
  | ended => exact .quiet rfl rfl rfl rfl rfl rfl
  | @failed i call =>
      cases call with
      | _ => exact .quiet rfl rfl rfl rfl rfl rfl

/-! ## The steps of a scenario are steps of its chains -/

theorem filterMap_callOf_mk (i k : ℕ) (calls : List Call) :
    (calls.map (Request.mk i)).filterMap (Request.callOf k) = if i = k then calls else [] := by
  rw [List.filterMap_map]
  split
  · next heq =>
      have hsome : Request.callOf k ∘ Request.mk i = some := funext fun _ => if_pos heq
      rw [hsome, List.filterMap_some]
  · next hne => exact List.filterMap_eq_nil_iff.mpr fun _ _ => if_neg hne

/-- A step leaves the chains of the other participants as they are. -/
theorem Follows.chain_of_ne {p : Participant}
    (h : Follows (s.answered event request) request event.reply p s')
    (hrequest : s.pending[event.i]? = some request) {k : ℕ} (hk : request.participant ≠ k) :
    s'.chain k = s.chain k := by
  obtain ⟨calls, -, hpending⟩ := h.pending
  have hcall : request.callOf k = none := if_neg hk
  have hanswer : answerOf k (request, event.reply) = none := by
    rw [answerOf, hcall, Option.map_none]
  rw [chain, h.participants, hpending, h.history, List.getElem?_modify_ne _ _ hk,
    List.filterMap_append, filterMap_callOf_mk, if_neg hk, List.append_nil]
  simp only [answered, Machine.filterMap_eraseIdx_none hrequest hcall,
    List.filterMap_cons_none hanswer]
  rfl

/-- A step is one of the chain whose request is answered. -/
theorem Follows.chain_step {p : Participant}
    (h : Follows (s.answered event request) request event.reply (event.reply.collect p) s')
    (hrequest : s.pending[event.i]? = some request)
    (hp : s.participants[request.participant]? = some p) :
    ∃ c c' j, s.chain request.participant = some c ∧
      c.step s.duration ⟨j, event.reply⟩ = some c' ∧
      s'.chain request.participant = some c' := by
  obtain ⟨calls, hnext, hpending⟩ := h.pending
  have hcall : request.callOf request.participant = some request.call := if_pos rfl
  have hanswer : answerOf request.participant (request, event.reply) =
      some (request.call, event.reply) := by
    rw [answerOf, hcall, Option.map_some]
  obtain ⟨j, hj, herase⟩ := Machine.filterMap_eraseIdx_some hrequest hcall
  have hp' := participants_collect (f := event.reply.collect) hp
  have hparticipant : (s.answered event request).participants.modify request.participant
      event.reply.collect = (s.collect request.participant event.reply.collect).participants :=
    rfl
  have hchain : s.chain request.participant = some
      { participant := p
        pending := s.pending.filterMap (Request.callOf request.participant)
        history := s.history.filterMap (answerOf request.participant) } := by
    rw [chain, hp, Option.map_some]
  have hchain' : s'.chain request.participant = some
      { participant := event.reply.collect p
        pending := (s.pending.filterMap (Request.callOf request.participant)).eraseIdx j ++ calls
        history := (request.call, event.reply) ::
          s.history.filterMap (answerOf request.participant) } := by
    rw [chain, h.participants, hparticipant, hp', Option.map_some, hpending, h.history,
      List.filterMap_append, filterMap_callOf_mk, if_pos rfl]
    simp only [answered, herase, List.filterMap_cons_some hanswer]
  have hnext' : request.call.next s.duration (event.reply.collect p) event.reply =
      some calls := hnext
  refine ⟨_, _, j, hchain, ?_, hchain'⟩
  simp only [Chain.step, hj, hnext', Option.map_some]

theorem step_chains (hready : s.Ready) (hstep : s.step event = some s')
    (hdefined' : s'.defined = true) :
    s'.duration = s.duration ∧
      ∃ i, (∀ k, i ≠ k → s'.chain k = s.chain k) ∧
        ∃ c c' j, s.chain i = some c ∧ c.step s.duration ⟨j, event.reply⟩ = some c' ∧
          s'.chain i = some c' := by
  obtain ⟨⟨hdefined, -⟩, request, hrequest, hcallback⟩ := step_cases hstep
  obtain ⟨p, hp, -⟩ := hready request (List.mem_of_getElem? hrequest)
  have hfollows := hcallback.follows hp hdefined hdefined'
  exact ⟨hfollows.duration, request.participant,
    fun k hk => hfollows.chain_of_ne hrequest hk, hfollows.chain_step hrequest hp⟩

/-! ## Runs of a scenario are runs of its chains -/

theorem requestAuthenticationFor_issue (deviceName : String) (i : ℕ) (s : SimulateScenario) :
    s.requestAuthenticationFor deviceName i =
      s.issue i (Chain.authenticate deviceName (s.participant i)) := by
  rw [requestAuthenticationFor, Chain.authenticate]
  cases (s.participant i).user with
  | none => rfl
  | some user => rfl

theorem pending_foldl (deviceName : String) (is : List ℕ) (s : SimulateScenario) :
    (is.foldl (fun s i => s.requestAuthenticationFor deviceName i) s).pending =
      s.pending ++ is.map fun i => ⟨i, Chain.authenticate deviceName (s.participant i)⟩ := by
  induction is generalizing s with
  | nil => exact (List.append_nil _).symm
  | cons i is ih =>
      rw [List.foldl_cons, ih, requestAuthenticationFor_issue, List.map_cons]
      simp only [issue, List.append_assoc, List.singleton_append]
      rfl

theorem chain_start (deviceName : String) {scenario : Util.Scenario} {i : ℕ}
    {p : Participant} (hp : scenario.participants[i]? = some p) :
    (start deviceName scenario).chain i = some (Chain.start deviceName p) := by
  obtain ⟨-, hparticipants, -, hhistory, -⟩ := start_ready deviceName scenario
  let first : SimulateScenario :=
    { participants := scenario.participants
      duration := scenario.duration.getD 60 }
  have hpending : (start deviceName scenario).pending =
      (List.range scenario.participants.length).map fun k =>
        ⟨k, Chain.authenticate deviceName (first.participant k)⟩ :=
    pending_foldl deviceName _ first
  have hmem : i ∈ List.range scenario.participants.length :=
    List.mem_range.mpr (List.getElem?_eq_some_iff.mp hp).1
  have hcalls : ((List.range scenario.participants.length).map fun k =>
      Request.mk k (Chain.authenticate deviceName (first.participant k))).filterMap
        (Request.callOf i) = [Chain.authenticate deviceName p] := by
    rw [List.filterMap_map]
    have hcallOf : (Request.callOf i ∘ fun k =>
        ⟨k, Chain.authenticate deviceName (first.participant k)⟩) =
        fun k => if k = i then some (Chain.authenticate deviceName p) else none := by
      funext k
      by_cases hk : k = i
      · subst hk
        have hfirst : first.participant k = p := participant_eq hp
        simp [Request.callOf, hfirst]
      · simp [Request.callOf, hk]
    rw [hcallOf, Machine.filterMap_of_nodup List.nodup_range, if_pos hmem]
  rw [chain, hparticipants, hp, Option.map_some, hpending, hcalls, hhistory]
  rfl

theorem duration_foldl (deviceName : String) (is : List ℕ) (s : SimulateScenario) :
    (is.foldl (fun s i => s.requestAuthenticationFor deviceName i) s).duration =
      s.duration := by
  induction is generalizing s with
  | nil => rfl
  | cons i is ih =>
      rw [List.foldl_cons, ih, requestAuthenticationFor_issue]
      rfl

theorem keys_foldl (deviceName : String) (is : List ℕ) (s : SimulateScenario) :
    (is.foldl (fun s i => s.requestAuthenticationFor deviceName i) s).keyCounter =
        s.keyCounter ∧
      (is.foldl (fun s i => s.requestAuthenticationFor deviceName i) s).simulator =
        s.simulator := by
  induction is generalizing s with
  | nil => exact ⟨rfl, rfl⟩
  | cons i is ih =>
      rw [List.foldl_cons, requestAuthenticationFor_issue]
      exact ih _

/-- In every state of a run that is defined, each participant is where a run of his own chain
leads to. -/
theorem run_chains {deviceName : String} {scenario : Util.Scenario} {events : List Event}
    (hrun : run step (start deviceName scenario) events = some s) (hdefined : s.defined = true)
    {i : ℕ} {p : Participant} (hp : scenario.participants[i]? = some p) :
    ∃ es c, run (Chain.step (scenario.duration.getD 60)) (Chain.start deviceName p) es =
      some c ∧ s.chain i = some c := by
  have hinv := Machine.invariant_run
    (fun s => s.Ready ∧ (s.defined = true → s.duration = scenario.duration.getD 60 ∧
      ∃ es c, run (Chain.step (scenario.duration.getD 60)) (Chain.start deviceName p) es =
        some c ∧ s.chain i = some c)) ?_ ?_ (Machine.meets_true _ _) hrun
  · exact (hinv.2 hdefined).2
  · rintro s event s' ⟨hready, hpast⟩ - hstep
    refine ⟨step_ready hready hstep, fun hdefined' => ?_⟩
    obtain ⟨hduration, es, c, hes, hc⟩ := hpast (step_cases hstep).1.1
    obtain ⟨hsame, j, hothers, before, after, k, hbefore, hchain, hafter⟩ :=
      step_chains hready hstep hdefined'
    refine ⟨hsame.trans hduration, ?_⟩
    by_cases hj : j = i
    · subst hj
      obtain rfl : c = before := Option.some.inj (hc.symm.trans hbefore)
      rw [hduration] at hchain
      exact ⟨_, after, Machine.run_concat hes hchain, hafter⟩
    · exact ⟨es, c, hes, (hothers i hj).trans hc⟩
  · exact ⟨(start_ready deviceName scenario).1, fun _ => ⟨duration_foldl deviceName _ _, [], _,
      rfl, chain_start deviceName hp⟩⟩

/-- A scenario is made of chains that do not see each other: in every state of a run that is
defined, each participant is where a run of his own chain leads to.  No call was made for
him twice, what a call is made with was brought by earlier replies to calls for him, and he
has what the replies brought. -/
theorem run_isMadeOfChains {deviceName : String} {scenario : Util.Scenario}
    {events : List Event} (hrun : run step (start deviceName scenario) events = some s)
    (hdefined : s.defined = true) {i : ℕ} {p : Participant}
    (hp : scenario.participants[i]? = some p) :
    ∃ es c, run (Chain.step (scenario.duration.getD 60)) (Chain.start deviceName p) es =
        some c ∧ s.chain i = some c ∧ (∀ k, c.made k ≤ 1) ∧
      (∀ call ∈ c.pending ++ c.history.map Prod.fst, call.Brought c.history) ∧
      ∀ answer ∈ c.history, answer.2.collect c.participant = c.participant := by
  obtain ⟨es, c, hes, hc⟩ := run_chains hrun hdefined hp
  have hsound := Chain.isSound_run hes
  exact ⟨es, c, hes, hc, hsound.made_le_one, hsound.brought, hsound.kept⟩

/-- The second of two participants, whose flight is never ended. -/
theorem run_isMadeOfChains_twoFlightsRun :
    ∃ s es c, run step (start "host" twoParticipants) twoFlightsRun = some s ∧
      run (Chain.step 60) (Chain.start "host" (twoParticipants.participants[1])) es =
        some c ∧ s.chain 1 = some c ∧ ∀ k, c.made k ≤ 1 := by
  obtain ⟨s, hrun⟩ : ∃ s, run step (start "host" twoParticipants) twoFlightsRun = some s :=
    Option.isSome_iff_exists.mp (by decide)
  obtain ⟨es, c, hes, hc, hmade, -⟩ :=
    run_isMadeOfChains hrun (defined_run (by decide) hrun) (i := 1) rfl
  exact ⟨s, es, c, hrun, hes, hc, hmade⟩

end Airmap.Cmd.SimulateScenario
