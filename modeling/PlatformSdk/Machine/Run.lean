import Mathlib.Data.Option.Basic

/-!
# Runs of a machine with partial steps

A machine is a step function `σ → ε → Option σ`; an event on which it returns
`none` cannot happen in that state.  The module names nothing but states and
events.  It relates three views of one event list: where the run ends (`run`),
what holds of every state it visits (`Along`), and what every step it takes
meets in the state before the step (`Meets`).
-/

namespace Machine

variable {σ ε : Type*} {step : σ → ε → Option σ}

/-- The state after a list of events, if each of them can happen in turn. -/
def run (step : σ → ε → Option σ) : σ → List ε → Option σ
  | s, [] => some s
  | s, e :: es =>
      match step s e with
      | some s' => run step s' es
      | none => none

/-- Every step the run takes meets `C` in the state before it. -/
def Meets (step : σ → ε → Option σ) (C : σ → ε → Prop) : σ → List ε → Prop
  | _, [] => True
  | s, e :: es =>
      C s e ∧
        match step s e with
        | some s' => Meets step C s' es
        | none => True

/-- `P` holds of every state the run visits, the first one included. -/
def Along (step : σ → ε → Option σ) (P : σ → Prop) : σ → List ε → Prop
  | s, [] => P s
  | s, e :: es =>
      P s ∧
        match step s e with
        | some s' => Along step P s' es
        | none => True

instance Meets.decide {C : σ → ε → Prop} [∀ s e, Decidable (C s e)] :
    ∀ s es, Decidable (Meets step C s es)
  | _, [] => inferInstanceAs (Decidable True)
  | s, e :: es =>
      have : Decidable (match step s e with
          | some s' => Meets step C s' es
          | none => True) :=
        match step s e with
        | some s' => Meets.decide s' es
        | none => inferInstanceAs (Decidable True)
      inferInstanceAs (Decidable (C s e ∧ _))

theorem run_cons {s s' : σ} {e : ε} {es : List ε}
    (h : run step s (e :: es) = some s') :
    ∃ next, step s e = some next ∧ run step next es = some s' := by
  simp only [run] at h
  cases hnext : step s e with
  | none => simp [hnext] at h
  | some next => exact ⟨next, rfl, by simpa [hnext] using h⟩

/-- A run that can be evaluated exhibits the state it ends in. -/
theorem exists_run {s : σ} {es : List ε} {P : σ → Prop} [DecidablePred P]
    (h : (run step s es).map (fun s' => decide (P s')) = some true) :
    ∃ s', run step s es = some s' ∧ P s' := by
  cases hrun : run step s es with
  | none => simp [hrun] at h
  | some s' =>
      rw [hrun, Option.map_some, Option.some.injEq, decide_eq_true_eq] at h
      exact ⟨s', rfl, h⟩

/-! ## Invariants -/

/-- What holds first and is kept by every step that meets `C` holds at the
end of each run whose steps meet `C`. -/
theorem invariant_run (Inv : σ → Prop) {C : σ → ε → Prop}
    (hstep : ∀ s e s', Inv s → C s e → step s e = some s' → Inv s')
    {s s' : σ} {es : List ε} (hinit : Inv s) (hmeets : Meets step C s es)
    (hrun : run step s es = some s') : Inv s' := by
  induction es generalizing s with
  | nil =>
      cases hrun
      exact hinit
  | cons e es ih =>
      obtain ⟨next, hnext, hrest⟩ := run_cons hrun
      obtain ⟨hC, hmeetsRest⟩ := hmeets
      simp only [hnext] at hmeetsRest
      exact ih (hstep s e next hinit hC hnext) hmeetsRest hrest

/-- What each step puts out according to its event, a run puts out event by
event. -/
theorem run_emits {α : Type*} (Inv : σ → Prop) (out : σ → List α)
    (emit : ε → List α)
    (hstep : ∀ s e s', Inv s → step s e = some s' →
      Inv s' ∧ out s' = out s ++ emit e)
    {s s' : σ} {es : List ε} (hinit : Inv s) (hrun : run step s es = some s') :
    out s' = out s ++ es.flatMap emit := by
  induction es generalizing s with
  | nil =>
      cases hrun
      simp
  | cons e es ih =>
      obtain ⟨next, hnext, hrest⟩ := run_cons hrun
      obtain ⟨hinv, hout⟩ := hstep s e next hinit hnext
      rw [ih hinv hrest, hout, List.flatMap_cons, List.append_assoc]

/-- A number that grows with each event of a kind counts these events. -/
theorem run_counts (Inv : σ → Prop) (count : σ → Nat) (kind : ε → Bool)
    (hstep : ∀ s e s', Inv s → step s e = some s' →
      Inv s' ∧ count s' = count s + if kind e then 1 else 0)
    {s s' : σ} {es : List ε} (hinit : Inv s) (hrun : run step s es = some s') :
    count s' = count s + es.countP kind := by
  induction es generalizing s with
  | nil =>
      cases hrun
      rfl
  | cons e es ih =>
      obtain ⟨next, hnext, hrest⟩ := run_cons hrun
      obtain ⟨hinv, hcount⟩ := hstep s e next hinit hnext
      rw [ih hinv hrest, hcount, List.countP_cons, Nat.add_assoc,
        Nat.add_comm (es.countP kind)]

/-- A condition on the events alone is met by each list of such events. -/
theorem meets_of_mem {C : ε → Prop} (s : σ) {es : List ε}
    (hC : ∀ e ∈ es, C e) : Meets step (fun _ => C) s es := by
  induction es generalizing s with
  | nil => trivial
  | cons e es ih =>
      refine ⟨hC e (by simp), ?_⟩
      cases step s e with
      | none => trivial
      | some next => exact ih next fun e' he' => hC e' (by simp [he'])

theorem meets_true (s : σ) (es : List ε) : Meets step (fun _ _ => True) s es :=
  meets_of_mem s fun _ _ => trivial

theorem Meets.and {C D : σ → ε → Prop} {s : σ} {es : List ε}
    (hC : Meets step C s es) (hD : Meets step D s es) :
    Meets step (fun s e => C s e ∧ D s e) s es := by
  induction es generalizing s with
  | nil => trivial
  | cons e es ih =>
      refine ⟨⟨hC.1, hD.1⟩, ?_⟩
      have hrestC := hC.2
      have hrestD := hD.2
      cases hnext : step s e with
      | none => trivial
      | some next =>
          simp only [hnext] at hrestC hrestD
          exact ih hrestC hrestD

/-- In a run whose steps meet `C`, what an invariant of such runs adds to `C` is
met as well. -/
theorem Meets.imp_of_invariant {C D : σ → ε → Prop} {s : σ} {es : List ε}
    (hC : Meets step C s es) (Inv : σ → Prop)
    (hstep : ∀ s e s', Inv s → C s e → step s e = some s' → Inv s')
    (himp : ∀ s e, Inv s → C s e → D s e) (hinit : Inv s) :
    Meets step D s es := by
  induction es generalizing s with
  | nil => trivial
  | cons e es ih =>
      obtain ⟨hfirst, hrest⟩ := hC
      refine ⟨himp s e hinit hfirst, ?_⟩
      cases hnext : step s e with
      | none => trivial
      | some next =>
          simp only [hnext] at hrest
          exact ih hrest (hstep s e next hinit hfirst hnext)

/-- If a step condition is exactly what keeps `P` over one step, then `P` holds
along a run exactly when every step of the run meets the condition. -/
theorem along_iff_meets (Inv : σ → Prop) {P : σ → Prop} {C : σ → ε → Prop}
    (hinv : ∀ s e s', Inv s → P s → step s e = some s' → P s' → Inv s')
    (hkeeps : ∀ s e s', Inv s → P s → step s e = some s' → (P s' ↔ C s e))
    (hdisabled : ∀ s e, step s e = none → C s e)
    {s : σ} {es : List ε} (hinit : Inv s) (hP : P s) :
    Along step P s es ↔ Meets step C s es := by
  induction es generalizing s with
  | nil => exact ⟨fun _ => trivial, fun _ => hP⟩
  | cons e es ih =>
      cases hnext : step s e with
      | none =>
          simp only [Along, Meets, hnext, and_true]
          exact ⟨fun _ => hdisabled s e hnext, fun _ => hP⟩
      | some next =>
          simp only [Along, Meets, hnext]
          have hiff := hkeeps s e next hinit hP hnext
          constructor
          · rintro ⟨-, hrest⟩
            have hPnext : P next := by
              cases es with
              | nil => exact hrest
              | cons e' es' => exact hrest.1
            exact ⟨hiff.mp hPnext,
              (ih (hinv s e next hinit hP hnext hPnext) hPnext).mp hrest⟩
          · rintro ⟨hC, hrest⟩
            have hPnext := hiff.mpr hC
            exact ⟨hP,
              (ih (hinv s e next hinit hP hnext hPnext) hPnext).mpr hrest⟩

end Machine
