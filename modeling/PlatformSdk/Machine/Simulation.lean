import Mathlib.Data.List.Induction
import PlatformSdk.Machine.Run
import PlatformSdk.Machine.Transducer

/-!
# Relating runs of machines

A run over two lists of events is a run over one after the other
(`run_append`).  What relates the events so far to the state they lead to is
shown by induction on the last event (`run_history_of_meets`).  A machine simulates another
one if each of its steps is matched by a run over some events of the other
(`run_simulates`).  A machine may take what a transducer puts out as its events
(`run_behind`), also where a step of it may fail (`run_tryBehind`).
-/

namespace Machine

variable {σ ε τ η : Type*} {step : σ → ε → Option σ} {step' : τ → η → Option τ}

/-- An event that contributes nothing to what is collected. -/
theorem filterMap_concat_none {f : ε → Option τ} {e : ε} (h : f e = none) (es : List ε) :
    (es ++ [e]).filterMap f = es.filterMap f := by
  rw [List.filterMap_append, List.filterMap_cons_none h, List.filterMap_nil, List.append_nil]

/-- An event that contributes something to what is collected. -/
theorem filterMap_concat_some {f : ε → Option τ} {e : ε} {t : τ} (h : f e = some t)
    (es : List ε) : (es ++ [e]).filterMap f = es.filterMap f ++ [t] := by
  rw [List.filterMap_append, List.filterMap_cons_some h, List.filterMap_nil]

/-- One of a list of keys without repetition is given a value. -/
theorem filterMap_of_nodup {α β : Type*} [DecidableEq α] {xs : List α} (h : xs.Nodup)
    (x : α) (value : β) :
    (xs.filterMap fun y => if y = x then some value else none) =
      if x ∈ xs then [value] else [] := by
  induction xs with
  | nil => rfl
  | cons y xs ih =>
      obtain ⟨hfresh, hnodup⟩ := List.nodup_cons.mp h
      by_cases hy : y = x
      · subst hy
        simp [ih hnodup, hfresh]
      · simp [ih hnodup, hy, Ne.symm hy]

@[simp] theorem run_nil (s : σ) : run step s [] = some s := rfl

theorem run_cons_of_eq {s next : σ} {e : ε} (h : step s e = some next) (es : List ε) :
    run step s (e :: es) = run step next es := by
  simp only [run, h]

theorem run_append {s mid : σ} {es : List ε} (h : run step s es = some mid)
    (es' : List ε) : run step s (es ++ es') = run step mid es' := by
  induction es generalizing s with
  | nil =>
      cases h
      rfl
  | cons e es ih =>
      obtain ⟨next, hnext, hrest⟩ := run_cons h
      rw [List.cons_append, run_cons_of_eq hnext, ih hrest]

theorem run_append_none {s : σ} {es : List ε} (h : run step s es = none)
    (es' : List ε) : run step s (es ++ es') = none := by
  induction es generalizing s with
  | nil => cases h
  | cons e es ih =>
      rw [List.cons_append]
      cases hnext : step s e with
      | none => simp only [run, hnext]
      | some next =>
          rw [run_cons_of_eq hnext] at h ⊢
          exact ih h

theorem run_concat {s mid last : σ} {es : List ε} {e : ε}
    (h : run step s es = some mid) (hlast : step mid e = some last) :
    run step s (es ++ [e]) = some last := by
  rw [run_append h, run_cons_of_eq hlast, run_nil]

theorem run_concat_cases {s last : σ} {es : List ε} {e : ε}
    (h : run step s (es ++ [e]) = some last) :
    ∃ mid, run step s es = some mid ∧ step mid e = some last := by
  induction es generalizing s with
  | nil =>
      obtain ⟨next, hnext, hrest⟩ := run_cons h
      cases hrest
      exact ⟨s, rfl, hnext⟩
  | cons e' es ih =>
      obtain ⟨next, hnext, hrest⟩ := run_cons h
      obtain ⟨mid, hmid, hlast⟩ := ih hrest
      exact ⟨mid, by rw [run_cons_of_eq hnext, hmid], hlast⟩

/-- A run whose steps meet a condition is one with a last step that meets it. -/
theorem meets_concat_cases {C : σ → ε → Prop} {s mid : σ} {es : List ε} {e : ε}
    (hmeets : Meets step C s (es ++ [e])) (hmid : run step s es = some mid) :
    Meets step C s es ∧ C mid e := by
  induction es generalizing s with
  | nil =>
      cases hmid
      exact ⟨trivial, hmeets.1⟩
  | cons e' es ih =>
      obtain ⟨next, hnext, hrest⟩ := run_cons hmid
      obtain ⟨hfirst, hmeetsRest⟩ := hmeets
      simp only [hnext] at hmeetsRest
      obtain ⟨hboth, hlast⟩ := ih hmeetsRest hrest
      exact ⟨⟨hfirst, by simpa only [hnext] using hboth⟩, hlast⟩

/-- A relation of the events so far with the state, which holds first and is kept
by every step that meets a condition, holds at the end of each run whose steps meet
it. -/
theorem run_history_of_meets (P : List ε → σ → Prop) {C : σ → ε → Prop} {s : σ}
    (hinit : P [] s)
    (hstep : ∀ es mid e last, P es mid → C mid e → step mid e = some last →
      P (es ++ [e]) last)
    {es : List ε} {last : σ} (hmeets : Meets step C s es)
    (hrun : run step s es = some last) : P es last := by
  induction es using List.reverseRecOn generalizing last with
  | nil =>
      cases hrun
      exact hinit
  | append_singleton es e ih =>
      obtain ⟨mid, hmid, hlast⟩ := run_concat_cases hrun
      obtain ⟨hmeetsMid, hC⟩ := meets_concat_cases hmeets hmid
      exact hstep es mid e last (ih hmeetsMid hmid) hC hlast

/-- A relation of the events so far with the state that every step keeps. -/
theorem run_history (P : List ε → σ → Prop) {s : σ} (hinit : P [] s)
    (hstep : ∀ es mid e last, P es mid → step mid e = some last → P (es ++ [e]) last)
    {es : List ε} {last : σ} (hrun : run step s es = some last) : P es last :=
  run_history_of_meets P hinit (fun es mid e last h _ => hstep es mid e last h)
    (meets_true s es) hrun

/-- Where each step is matched by the run of another machine over the events that
the step stands for, a run is matched by one over all of these events. -/
theorem run_simulates (Inv : σ → Prop) (view : σ → τ) (events : ε → List η)
    (hstep : ∀ s e s', Inv s → step s e = some s' →
      Inv s' ∧ run step' (view s) (events e) = some (view s'))
    {s s' : σ} {es : List ε} (hinit : Inv s) (hrun : run step s es = some s') :
    Inv s' ∧ run step' (view s) (es.flatMap events) = some (view s') := by
  induction es generalizing s with
  | nil =>
      cases hrun
      exact ⟨hinit, rfl⟩
  | cons e es ih =>
      obtain ⟨next, hnext, hrest⟩ := run_cons hrun
      obtain ⟨hinv, hfirst⟩ := hstep s e next hinit hnext
      obtain ⟨hlast, hevents⟩ := ih hinv hrest
      exact ⟨hlast, by rw [List.flatMap_cons, run_append hfirst, hevents]⟩

/-! ## A machine behind a transducer -/

section Behind

variable {ι : Type*}

/-- The events of the machine are what a step puts out that may fail. -/
def tryBehind (first : σ → ι → Option (σ × List η)) (step' : τ → η → Option τ) (s : σ × τ)
    (i : ι) : Option (σ × τ) :=
  (first s.1 i).bind fun next => (run step' s.2 next.2).map (Prod.mk next.1)

/-- A run of a machine behind such a step is a run of the machine over what the steps put
out in a run. -/
theorem run_tryBehind {first : σ → ι → Option (σ × List η)} (s : σ × τ) (is : List ι) :
    run (tryBehind first step') s is =
      (tryFeed first s.1 is).bind fun last =>
        (run step' s.2 last.2).map (Prod.mk last.1) := by
  induction is generalizing s with
  | nil => rfl
  | cons i is ih =>
      cases hfirst : first s.1 i with
      | none => simp [run, tryFeed, tryBehind, hfirst]
      | some next =>
          have htry : tryFeed first s.1 (i :: is) =
              (tryFeed first next.1 is).map fun last => (last.1, next.2 ++ last.2) := by
            simp only [tryFeed, hfirst]
            cases tryFeed first next.1 is with
            | none => rfl
            | some last => rfl
          rw [htry, Option.bind_map]
          cases hnext : run step' s.2 next.2 with
          | none =>
              have hnone : tryBehind first step' s i = none := by
                rw [tryBehind, hfirst, Option.bind_some, hnext, Option.map_none]
              simp [run, hnone, run_append_none hnext]
          | some t =>
              have hsome : tryBehind first step' s i = some (next.1, t) := by
                rw [tryBehind, hfirst, Option.bind_some, hnext, Option.map_some]
              rw [run_cons_of_eq hsome, ih]
              simp [run_append hnext]

variable {first : σ → ι → σ × List η}

/-- The events of the machine are what the transducer puts out. -/
def behind (first : σ → ι → σ × List η) (step' : τ → η → Option τ) (s : σ × τ) (i : ι) :
    Option (σ × τ) :=
  (run step' s.2 (first s.1 i).2).map (Prod.mk (first s.1 i).1)

/-- A run of a machine behind a transducer is a run of the machine over what the
transducer puts out in a run. -/
theorem run_behind (s : σ × τ) (is : List ι) :
    run (behind first step') s is =
      (run step' s.2 (feed first s.1 is).2).map (Prod.mk (feed first s.1 is).1) := by
  have hbehind : behind first step' = tryBehind (fun s i => some (first s i)) step' := rfl
  rw [hbehind, run_tryBehind, tryFeed_some, Option.bind_some]

end Behind

end Machine
