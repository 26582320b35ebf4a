import PlatformSdk.Cmd.SimulateScenario.Chains

/-!
# When the telemetry starts

The simulator of a scenario is started as soon as the keys are counted to the number of the
participants.  The module shows that this is when all of them have their key, and that the
copies which the simulator gets have all that the telemetry is submitted with.
-/

namespace Airmap.Cmd.SimulateScenario

open Machine (run)
open Util.Scenario (Participant)

variable {s s' : SimulateScenario} {request : Request} {reply : Reply} {event : Event}

/-- The participants whose keys were collected. -/
def keyed (history : List (Request × Reply)) : List ℕ :=
  history.filterMap fun answer =>
    if answer.2.kind = some .startComms then some answer.1.participant else none

/-- What the receiver of the simulator submits the telemetry of a participant with. -/
def submitsWith (p : Participant) : Option (Flight × String) :=
  match p.flight, p.encryptionKey with
  | some flight, some key => some (flight, key)
  | _, _ => none

/-- A reply to a call for the participant. -/
def Got (i : ℕ) (reply : Reply) (s : SimulateScenario) : Prop :=
  ∃ call, (⟨i, call⟩, reply) ∈ s.history

theorem count_keyed (history : List (Request × Reply)) (i : ℕ) :
    (keyed history).count i = (history.filterMap (answerOf i)).countP
      fun answer => answer.2.kind = some .startComms := by
  induction history with
  | nil => rfl
  | cons answer history ih =>
      obtain ⟨⟨j, call⟩, reply⟩ := answer
      by_cases hj : j = i
      · have hanswer : answerOf i (⟨j, call⟩, reply) = some (call, reply) := by
          simp [answerOf, Request.callOf, hj]
        rw [List.filterMap_cons_some hanswer, List.countP_cons, ← ih, keyed, List.filterMap_cons]
        by_cases hkind : reply.kind = some .startComms
        · simp [hkind, hj, keyed]
        · simp [hkind, keyed]
      · have hanswer : answerOf i (⟨j, call⟩, reply) = none := by
          simp [answerOf, Request.callOf, hj]
        rw [List.filterMap_cons_none hanswer, ← ih, keyed, List.filterMap_cons]
        by_cases hkind : reply.kind = some .startComms
        · simp [hkind, hj, keyed]
        · simp [hkind, keyed]

theorem keys_handleStartFlightCommsResultFor (i : ℕ) (key : String) (s : SimulateScenario)
    (hdefined : (s.handleStartFlightCommsResultFor i key).defined = true) :
    (s.handleStartFlightCommsResultFor i key).keyCounter = s.keyCounter + 1 ∧
      (s.handleStartFlightCommsResultFor i key).simulator =
        if s.participants.length = (s.keyCounter + 1).toNat then
          some (s.simulator.getD (s.handleStartFlightCommsResultFor i key).participants)
        else s.simulator := by
  have hlength : (s.collect i fun p => { p with encryptionKey := some key }).participants.length =
      s.participants.length := List.length_modify ..
  have hcounter : (s.collect i fun p => { p with encryptionKey := some key }).keyCounter =
      s.keyCounter := rfl
  simp only [handleStartFlightCommsResultFor, hlength, hcounter] at hdefined ⊢
  by_cases hlast : s.participants.length = (s.keyCounter + 1).toNat
  · rw [if_pos hlast] at hdefined ⊢
    split at hdefined
    · next hsegments =>
        rw [if_pos hlast, if_pos hsegments]
        exact ⟨rfl, rfl⟩
    · cases hdefined
  · rw [if_neg hlast, if_neg hlast]
    exact ⟨rfl, rfl⟩

/-- Only a key changes the key counter and may start the simulator. -/
theorem Callback.keys (h : Callback s request reply s') (hdefined : s'.defined = true) :
    (∃ key, reply = .key key ∧ s'.keyCounter = s.keyCounter + 1 ∧
      s'.simulator = if s.participants.length = (s.keyCounter + 1).toNat then
        some (s.simulator.getD s'.participants) else s.simulator) ∨
    (reply.kind ≠ some .startComms ∧ s'.keyCounter = s.keyCounter ∧
      s'.simulator = s.simulator) := by
  cases h with
  | @authenticatedWithPassword i _ id | @authenticatedAnonymously i _ id =>
      obtain ⟨_, _, heq⟩ := handleAuthenticatedResultFor_eq i id s
      rw [heq]
      exact .inr ⟨by simp [Reply.kind], rfl, rfl⟩
  | @started i authorization flight key =>
      exact .inl ⟨key, rfl, keys_handleStartFlightCommsResultFor i key s hdefined⟩
  | @failed i call =>
      cases call with
      | _ => exact .inr ⟨by simp [Reply.kind], rfl, rfl⟩
  | _ => exact .inr ⟨by simp [Reply.kind], rfl, rfl⟩

/-- The key of a participant is collected once. -/
theorem Chain.IsSound.countP_keys_le_one {c : Chain} (h : c.IsSound) :
    (c.history.countP fun answer => answer.2.kind = some .startComms) ≤ 1 := by
  have hmade : Machine.made (c.pending.map Call.kind) (c.history.map Chain.answerKind)
    .startComms ≤ 1 := h.made_le_one .startComms
  have hle := Machine.pending_add_succeeded_le (c.pending.map Call.kind)
    (c.history.map Chain.answerKind) .startComms
  have hkeys : (c.history.countP fun answer => answer.2.kind = some .startComms) ≤
      Machine.succeeded (c.history.map Chain.answerKind) .startComms := by
    rw [Machine.succeeded, List.count_eq_countP, List.countP_map]
    refine List.countP_mono_left fun answer hanswer hkind => ?_
    obtain ⟨hcall, hfailure⟩ := h.taken answer hanswer .startComms (of_decide_eq_true hkind)
    simp [Chain.answerKind, hcall, hfailure]
  omega

section Telemetry

variable {deviceName : String} {scenario : Util.Scenario} {events : List Event}

theorem run_length (hrun : run step (start deviceName scenario) events = some s) :
    s.participants.length = scenario.participants.length := by
  refine Machine.invariant_run
    (fun s => s.participants.length = scenario.participants.length) ?_ ?_
    (Machine.meets_true _ _) hrun
  · intro s event s' hlength _ hstep
    obtain ⟨-, request, -, hcallback⟩ := step_cases hstep
    exact hcallback.length_participants.trans hlength
  · rw [(start_ready deviceName scenario).2.1]

/-- Every participant of a state of a run has a chain that is sound. -/
theorem exists_chain (hrun : run step (start deviceName scenario) events = some s)
    (hdefined : s.defined = true) {i : ℕ} (hi : i < s.participants.length) :
    ∃ c, s.chain i = some c ∧ c.IsSound := by
  rw [run_length hrun] at hi
  obtain ⟨es, c, hes, hc⟩ := run_chains hrun hdefined (List.getElem?_eq_getElem hi)
  exact ⟨c, hc, Chain.isSound_run hes⟩

theorem history_chain {i : ℕ} {c : Chain} (hc : s.chain i = some c) :
    s.participants[i]? = some c.participant ∧
      c.history = s.history.filterMap (answerOf i) := by
  obtain ⟨p, hp, rfl⟩ := Option.map_eq_some_iff.mp hc
  exact ⟨hp, rfl⟩

/-- What is known of the keys in a state of a run. -/
structure CountsKeys (s : SimulateScenario) : Prop where
  inRange : ∀ i ∈ keyed s.history, i < s.participants.length
  counter : s.keyCounter = .ofNat (keyed s.history).length
  started : s.simulator.isSome ↔
    0 < s.participants.length ∧ (keyed s.history).length = s.participants.length

/-- No key is collected twice, so that there are not more keys than participants. -/
theorem nodup_keyed (hrun : run step (start deviceName scenario) events = some s)
    (hdefined : s.defined = true) (hinRange : ∀ i ∈ keyed s.history, i < s.participants.length) :
    (keyed s.history).Nodup := by
  rw [List.nodup_iff_count_le_one]
  intro i
  by_cases hmem : i ∈ keyed s.history
  · obtain ⟨c, hc, hsound⟩ := exists_chain hrun hdefined (hinRange i hmem)
    rw [count_keyed, ← (history_chain hc).2]
    exact hsound.countP_keys_le_one
  · rw [List.count_eq_zero_of_not_mem hmem]
    exact Nat.zero_le 1

theorem keyed_subperm {history : List (Request × Reply)} {n : ℕ}
    (hnodup : (keyed history).Nodup) (hinRange : ∀ i ∈ keyed history, i < n) :
    (keyed history).Subperm (List.range n) :=
  List.subperm_of_subset hnodup fun i hi => List.mem_range.mpr (hinRange i hi)

theorem keyed_cons_key (i : ℕ) (call : Call) (key : String)
    (history : List (Request × Reply)) :
    keyed ((⟨i, call⟩, .key key) :: history) = i :: keyed history :=
  List.filterMap_cons_some (if_pos rfl)

theorem keyed_cons_of_ne {answer : Request × Reply} (h : answer.2.kind ≠ some .startComms)
    (history : List (Request × Reply)) : keyed (answer :: history) = keyed history :=
  List.filterMap_cons_none (if_neg h)

theorem countsKeys_start (deviceName : String) (scenario : Util.Scenario) :
    (start deviceName scenario).CountsKeys := by
  obtain ⟨-, -, -, hhistory, -⟩ := start_ready deviceName scenario
  have hkeys := keys_foldl deviceName (List.range scenario.participants.length)
    { participants := scenario.participants
      duration := scenario.duration.getD 60 }
  refine ⟨?_, ?_, ?_⟩
  · rw [hhistory]
    simp [keyed]
  · rw [hhistory]
    exact hkeys.1
  · rw [hhistory]
    have hnone : (start deviceName scenario).simulator = none := hkeys.2
    simp only [hnone, keyed, List.filterMap_nil, List.length_nil, Option.isSome_none,
      Bool.false_eq_true, false_iff]
    omega

/-- An answer that is not a key. -/
theorem CountsKeys.other (h : s.CountsKeys) {answer : Request × Reply}
    (hanswer : answer.2.kind ≠ some .startComms)
    (hlength : s'.participants.length = s.participants.length)
    (hhistory : s'.history = answer :: s.history) (hcounter : s'.keyCounter = s.keyCounter)
    (hsimulator : s'.simulator = s.simulator) : s'.CountsKeys where
  inRange := by
    rw [hhistory, keyed_cons_of_ne hanswer, hlength]
    exact h.inRange
  counter := by rw [hhistory, keyed_cons_of_ne hanswer, hcounter, h.counter]
  started := by rw [hhistory, keyed_cons_of_ne hanswer, hlength, hsimulator, h.started]

theorem CountsKeys.step (h : s.CountsKeys)
    (hlength : scenario.participants.length < 2 ^ 32)
    (hrun : run SimulateScenario.step (start deviceName scenario) events = some s)
    (hstep : s.step event = some s') (hdefined' : s'.defined = true) : s'.CountsKeys := by
  have hnext := Machine.run_concat hrun hstep
  have hready := ready_run hrun
  obtain ⟨⟨hdefined, -⟩, request, hrequest, hcallback⟩ := step_cases hstep
  obtain ⟨p, hp, -⟩ := hready request (List.mem_of_getElem? hrequest)
  have hsame : s'.participants.length = s.participants.length := hcallback.length_participants
  have hhistory : s'.history = (request, event.reply) :: s.history :=
    (hcallback.follows hp hdefined hdefined').history
  rcases hcallback.keys hdefined' with
    ⟨key, hreply, hcounter, hsimulator⟩ | ⟨hreply, hcounter, hsimulator⟩
  · obtain ⟨i, call⟩ := request
    rw [hreply] at hhistory
    have hi : i < s.participants.length := (List.getElem?_eq_some_iff.mp hp).1
    have hkeyed : keyed s'.history = i :: keyed s.history := by
      rw [hhistory, keyed_cons_key]
    have hinRange : ∀ j ∈ keyed s'.history, j < s'.participants.length := by
      intro j hj
      rw [hkeyed, List.mem_cons] at hj
      rw [hsame]
      rcases hj with rfl | hj
      · exact hi
      · exact h.inRange j hj
    have hle := (keyed_subperm (nodup_keyed hnext hdefined' hinRange) hinRange).length_le
    rw [hkeyed, List.length_cons, List.length_range, hsame] at hle
    have hn := run_length hrun
    have hcounted : s.keyCounter + 1 = .ofNat ((keyed s.history).length + 1) := by
      rw [h.counter, UInt32.ofNat_add]
      rfl
    have htoNat : (s.keyCounter + 1).toNat = (keyed s.history).length + 1 := by
      rw [hcounted, UInt32.toNat_ofNat_of_lt']
      have h32 : UInt32.size = 2 ^ 32 := rfl
      omega
    refine ⟨hinRange, ?_, ?_⟩
    · rw [hkeyed, List.length_cons, hcounter]
      exact hcounted
    · rw [hkeyed, List.length_cons, hsame, hsimulator]
      simp only [answered, htoNat]
      by_cases hlast : s.participants.length = (keyed s.history).length + 1
      · rw [if_pos hlast]
        simp only [Option.isSome_some, true_iff]
        omega
      · rw [if_neg hlast, h.started]
        omega
  · exact h.other hreply hsame hhistory hcounter hsimulator

theorem countsKeys_run (hlength : scenario.participants.length < 2 ^ 32)
    (hrun : run step (start deviceName scenario) events = some s)
    (hdefined : s.defined = true) : s.CountsKeys := by
  refine (Machine.run_history (fun es s =>
    run step (start deviceName scenario) es = some s ∧ (s.defined = true → s.CountsKeys))
      ?_ ?_ hrun).2 hdefined
  · exact ⟨rfl, fun _ => countsKeys_start deviceName scenario⟩
  · rintro es mid event last ⟨hmid, hcounts⟩ hstep
    exact ⟨Machine.run_concat hmid hstep, fun hdefined' =>
      (hcounts (step_cases hstep).1.1).step hlength hmid hstep hdefined'⟩

theorem got_iff {i : ℕ} {call : Call} {reply : Reply} :
    (call, reply) ∈ s.history.filterMap (answerOf i) ↔ (⟨i, call⟩, reply) ∈ s.history := by
  rw [List.mem_filterMap]
  constructor
  · rintro ⟨⟨⟨j, call'⟩, reply'⟩, hmem, hanswer⟩
    obtain ⟨call'', hcall, heq⟩ := Option.map_eq_some_iff.mp hanswer
    obtain ⟨rfl, rfl⟩ := Prod.mk.inj heq
    rw [Request.callOf] at hcall
    split at hcall
    · next hj =>
        obtain rfl := Option.some.inj hcall
        subst hj
        exact hmem
    · cases hcall
  · intro hmem
    exact ⟨_, hmem, by simp [answerOf, Request.callOf]⟩

/-- Whoever has a key has a flight: his telemetry is submitted with what replies to calls
for him brought. -/
theorem submitsWith_of_keyed (hrun : run step (start deviceName scenario) events = some s)
    (hdefined : s.defined = true) {i : ℕ} (hi : i ∈ keyed s.history) {p : Participant}
    (hp : s.participants[i]? = some p) :
    ∃ created key, submitsWith p = some (created, key) ∧ Got i (.flight created) s ∧
      Got i (.key key) s := by
  obtain ⟨c, hc, hsound⟩ := exists_chain hrun hdefined (List.getElem?_eq_some_iff.mp hp).1
  obtain ⟨hparticipant, hhistory⟩ := history_chain hc
  obtain rfl : p = c.participant := Option.some.inj (hp.symm.trans hparticipant)
  rw [keyed, List.mem_filterMap] at hi
  obtain ⟨⟨⟨j, call⟩, reply⟩, hmem, hkey⟩ := hi
  split at hkey
  · next hkind =>
      obtain rfl : j = i := Option.some.inj hkey
      have hanswer : (call, reply) ∈ c.history := by rwa [hhistory, got_iff]
      have hcall := (hsound.taken _ hanswer _ hkind).1
      have hbrought := hsound.brought call
        (List.mem_append_right _ (List.mem_map_of_mem hanswer))
      cases reply with
      | key key =>
          cases call with
          | startFlightCommunications authorization flight =>
              obtain ⟨call', created, hcreated, -⟩ := hbrought.2
              have hflight := hsound.kept _ hcreated
              have hencryption := hsound.kept _ hanswer
              rw [hhistory, got_iff] at hcreated
              refine ⟨created, key, ?_, ⟨call', hcreated⟩, _, hmem⟩
              have hflight' : c.participant.flight = some created := by
                rw [← hflight]
                rfl
              have hkey' : c.participant.encryptionKey = some key := by
                rw [← hencryption]
                rfl
              rw [submitsWith, hflight', hkey']
          | _ => cases hcall
      | _ => cases hkind
  · cases hkey

/-- The simulator has copies of the participants, and submits the telemetry of each of
them. -/
def Copies (s : SimulateScenario) : Prop :=
  ∀ participants, s.simulator = some participants →
    participants.length = s.participants.length ∧
      ∀ i p, participants[i]? = some p → ∃ created key, submitsWith p = some (created, key) ∧
        Got i (.flight created) s ∧ Got i (.key key) s

theorem Got.mono {i : ℕ} {reply : Reply} (h : Got i reply s)
    (hsub : s.history ⊆ s'.history) : Got i reply s' := by
  obtain ⟨call, hmem⟩ := h
  exact ⟨call, hsub hmem⟩

theorem Copies.same (h : s.Copies) (hsimulator : s'.simulator = s.simulator)
    (hlength : s'.participants.length = s.participants.length)
    (hsub : s.history ⊆ s'.history) : s'.Copies := by
  intro participants hsome
  obtain ⟨hcount, hsubmits⟩ := h participants (hsimulator.symm.trans hsome)
  refine ⟨hcount.trans hlength.symm, fun i p hp => ?_⟩
  obtain ⟨created, key, hsubmitsWith, hflight, hkey⟩ := hsubmits i p hp
  exact ⟨created, key, hsubmitsWith, hflight.mono hsub, hkey.mono hsub⟩

theorem Copies.step (h : s.Copies) (hlength : scenario.participants.length < 2 ^ 32)
    (hrun : run SimulateScenario.step (start deviceName scenario) events = some s)
    (hstep : s.step event = some s') (hdefined' : s'.defined = true) : s'.Copies := by
  have hnext := Machine.run_concat hrun hstep
  obtain ⟨⟨hdefined, -⟩, request, hrequest, hcallback⟩ := step_cases hstep
  have hcounts := countsKeys_run hlength hrun hdefined
  have hcounts' := countsKeys_run hlength hnext hdefined'
  obtain ⟨p, hp, -⟩ := ready_run hrun request (List.mem_of_getElem? hrequest)
  have hsame : s'.participants.length = s.participants.length := hcallback.length_participants
  have hhistory : s'.history = (request, event.reply) :: s.history :=
    (hcallback.follows hp hdefined hdefined').history
  have hsub : s.history ⊆ s'.history := by
    rw [hhistory]
    exact List.subset_cons_self _ _
  rcases hcallback.keys hdefined' with
    ⟨key, hreply, hcounter, hsimulator⟩ | ⟨-, -, hsimulator⟩
  · split at hsimulator
    · -- With the last key every participant has one, and the simulator gets these participants.
      obtain ⟨i, call⟩ := request
      rw [hreply] at hhistory
      have hnodup := nodup_keyed hnext hdefined' hcounts'.inRange
      have hsubperm := keyed_subperm hnodup hcounts'.inRange
      have hkeyed : (keyed s'.history).length = (keyed s.history).length + 1 := by
        rw [hhistory, keyed_cons_key, List.length_cons]
      have hle := hsubperm.length_le
      rw [List.length_range] at hle
      have hnone : (s.answered event ⟨i, call⟩).simulator = none := by
        rw [← Option.not_isSome_iff_eq_none]
        change ¬ s.simulator.isSome
        rw [hcounts.started]
        omega
      rw [hnone, Option.getD_none] at hsimulator
      have hall := (hcounts'.started.mp (by rw [hsimulator]; rfl)).2
      have hperm := hsubperm.perm_of_length_le (by rw [List.length_range, hall])
      intro participants hsome
      obtain rfl : s'.participants = participants := Option.some.inj (hsimulator.symm.trans hsome)
      refine ⟨rfl, fun j q hq => submitsWith_of_keyed hnext hdefined' ?_ hq⟩
      rw [hperm.mem_iff, List.mem_range]
      exact (List.getElem?_eq_some_iff.mp hq).1
    · exact h.same hsimulator hsame hsub
  · exact h.same hsimulator hsame hsub

theorem copies_run (hlength : scenario.participants.length < 2 ^ 32)
    (hrun : run step (start deviceName scenario) events = some s)
    (hdefined : s.defined = true) : s.Copies := by
  refine (Machine.run_history (fun es s =>
    run step (start deviceName scenario) es = some s ∧ (s.defined = true → s.Copies))
      ?_ ?_ hrun).2 hdefined
  · refine ⟨rfl, fun _ participants hsome => ?_⟩
    have hnone : (start deviceName scenario).simulator = none :=
      (keys_foldl deviceName (List.range scenario.participants.length) _).2
    rw [hnone] at hsome
    cases hsome
  · rintro es mid event last ⟨hmid, hcopies⟩ hstep
    exact ⟨Machine.run_concat hmid hstep, fun hdefined' =>
      (hcopies (step_cases hstep).1.1).step hlength hmid hstep hdefined'⟩

/-- The simulator is started with the last key: as long as a run is defined, it runs once every
participant has got his key, and then submits the telemetry of each of them for the flight
and with the key that replies to calls for this participant brought. -/
theorem simulator_iff_keys (hlength : scenario.participants.length < 2 ^ 32)
    (hrun : run step (start deviceName scenario) events = some s)
    (hdefined : s.defined = true) :
    (s.simulator.isSome ↔ 0 < scenario.participants.length ∧
      ∀ i < scenario.participants.length, ∃ key, Got i (.key key) s) ∧
    ∀ participants, s.simulator = some participants →
      participants.length = scenario.participants.length ∧
      ∀ i p, participants[i]? = some p → ∃ created key,
        submitsWith p = some (created, key) ∧ Got i (.flight created) s ∧
          Got i (.key key) s := by
  have hcounts := countsKeys_run hlength hrun hdefined
  have hcopies := copies_run hlength hrun hdefined
  rw [← run_length hrun]
  refine ⟨?_, hcopies⟩
  have hsubperm := keyed_subperm (nodup_keyed hrun hdefined hcounts.inRange) hcounts.inRange
  rw [hcounts.started]
  refine and_congr_right fun hpositive => ⟨fun hall i hi => ?_, fun hall => ?_⟩
  · have hperm := hsubperm.perm_of_length_le (by rw [List.length_range, hall])
    have hmem : i ∈ keyed s.history := hperm.mem_iff.mpr (List.mem_range.mpr hi)
    obtain ⟨-, key, -, -, hkey⟩ :=
      submitsWith_of_keyed hrun hdefined hmem (List.getElem?_eq_getElem hi)
    exact ⟨key, hkey⟩
  · have hrange : List.range s.participants.length ⊆ keyed s.history := by
      intro i hi
      obtain ⟨key, call, hmem⟩ := hall i (List.mem_range.mp hi)
      exact List.mem_filterMap.mpr ⟨_, hmem, if_pos rfl⟩
    have hle := (List.subperm_of_subset List.nodup_range hrange).length_le
    have hle' := hsubperm.length_le
    rw [List.length_range] at hle hle'
    omega

end Telemetry

/-- Both participants get a key before the flight of the first one is ended. -/
theorem simulator_iff_keys_twoFlightsRun :
    ∃ s participants, run step (start "host" twoParticipants) twoFlightsRun = some s ∧
      s.simulator = some participants ∧ participants.length = 2 ∧
      ∀ i p, participants[i]? = some p → ∃ created key,
        submitsWith p = some (created, key) ∧ Got i (.flight created) s ∧
          Got i (.key key) s := by
  have hdecide : (run step (start "host" twoParticipants) twoFlightsRun).map
      (fun s => decide (s.simulator.isSome = true)) = some true := by
    decide
  obtain ⟨s, hrun, hsome⟩ := Machine.exists_run hdecide
  obtain ⟨participants, hparticipants⟩ := Option.isSome_iff_exists.mp hsome
  have hdefined := defined_run (by decide) hrun
  obtain ⟨hlength, hsubmits⟩ :=
    (simulator_iff_keys (by decide) hrun hdefined).2 _ hparticipants
  exact ⟨s, participants, hrun, hparticipants, hlength, hsubmits⟩

end Airmap.Cmd.SimulateScenario
