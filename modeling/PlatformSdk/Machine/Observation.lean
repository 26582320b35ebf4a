import PlatformSdk.Machine.Run

/-!
# What a run shows

Each step of a run may show something, according to the state before it and its event.
What relates all that was shown so far to the state is shown by induction on the run
(`run_observations`).
-/

namespace Machine

variable {σ ε ω : Type*} {step : σ → ε → Option σ} {observe : σ → ε → List ω}

/-- What the steps of a run show, one after the other. -/
def observations (step : σ → ε → Option σ) (observe : σ → ε → List ω) : σ → List ε → List ω
  | _, [] => []
  | s, e :: es =>
      match step s e with
      | some s' => observe s e ++ observations step observe s' es
      | none => []

theorem observations_cons {s s' : σ} {e : ε} (h : step s e = some s') (es : List ε) :
    observations step observe s (e :: es) =
      observe s e ++ observations step observe s' es := by
  simp only [observations, h]

/-- A relation of what was shown with the state, which every step that meets a condition
keeps, holds at the end of each run whose steps meet it. -/
theorem run_observations (P : List ω → σ → Prop) {C : σ → ε → Prop}
    (hstep : ∀ shown s e s', P shown s → C s e → step s e = some s' →
      P (shown ++ observe s e) s')
    {s last : σ} {es : List ε} (hinit : P [] s) (hmeets : Meets step C s es)
    (hrun : run step s es = some last) : P (observations step observe s es) last := by
  suffices hgeneral : ∀ shown, P shown s → P (shown ++ observations step observe s es) last by
    simpa using hgeneral [] hinit
  clear hinit
  induction es generalizing s with
  | nil =>
      cases hrun
      intro shown h
      simpa [observations] using h
  | cons e es ih =>
      intro shown h
      obtain ⟨next, hnext, hrest⟩ := run_cons hrun
      obtain ⟨hC, hmeetsRest⟩ := hmeets
      simp only [hnext] at hmeetsRest
      rw [observations_cons hnext, ← List.append_assoc]
      exact ih hmeetsRest hrest _ (hstep shown s e next h hC hnext)

end Machine
