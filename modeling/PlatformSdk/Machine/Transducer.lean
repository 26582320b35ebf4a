import Mathlib.Logic.Function.Basic
import Mathlib.Data.List.Nodup

/-!
# Machines with output

A transducer consumes one input a step and puts out a list.  The module names
nothing but states, inputs and outputs.  A run does not depend on how its input
is cut into pieces (`feed_flatten`); transducers that share an input by its key
do not see each other (`feed_keyed`); a step that could fail but does not
is a step of a transducer (`tryFeed_eq_some`); and a transducer may read what such steps
put out (`tryFeed_pipe`).
-/

namespace Machine

variable {σ ι ω : Type*}

/-- The end of a run over a list of inputs, and all that it puts out. -/
def feed (step : σ → ι → σ × List ω) : σ → List ι → σ × List ω
  | s, [] => (s, [])
  | s, i :: is =>
      let (s, out) := step s i
      let (s, rest) := feed step s is
      (s, out ++ rest)

section Feed

variable {step : σ → ι → σ × List ω}

@[simp] theorem feed_nil (s : σ) : feed step s [] = (s, []) := rfl

theorem feed_cons (s : σ) (i : ι) (is : List ι) :
    feed step s (i :: is) =
      ((feed step (step s i).1 is).1,
        (step s i).2 ++ (feed step (step s i).1 is).2) := rfl

/-- A run over two lists is a run over the first, then one over the second. -/
theorem feed_append (s : σ) (is js : List ι) :
    feed step s (is ++ js) =
      ((feed step (feed step s is).1 js).1,
        (feed step s is).2 ++ (feed step (feed step s is).1 js).2) := by
  induction is generalizing s with
  | nil => simp
  | cons i is ih =>
      rw [List.cons_append, feed_cons, ih, feed_cons, List.append_assoc]

/-- However the input is cut into pieces, runs over the pieces one after the
other are the run over the whole. -/
theorem feed_flatten (s : σ) (pieces : List (List ι)) :
    feed (feed step) s pieces = feed step s pieces.flatten := by
  induction pieces generalizing s with
  | nil => rfl
  | cons piece pieces ih =>
      rw [feed_cons, ih, List.flatten_cons, feed_append]

/-- To translate each output of a step is to translate each output of a run. -/
theorem feed_flatMap {ω' : Type*} (f : ω → List ω') (s : σ) (is : List ι) :
    feed (fun s i => ((step s i).1, (step s i).2.flatMap f)) s is =
      ((feed step s is).1, (feed step s is).2.flatMap f) := by
  induction is generalizing s with
  | nil => rfl
  | cons i is ih => rw [feed_cons, ih, feed_cons, List.flatMap_append]

/-- The same for a translation of an output into one output. -/
theorem feed_map {ω' : Type*} (f : ω → ω') (s : σ) (is : List ι) :
    feed (fun s i => ((step s i).1, (step s i).2.map f)) s is =
      ((feed step s is).1, (feed step s is).2.map f) := by
  simp only [List.map_eq_flatMap]
  exact feed_flatMap (fun output => [f output]) s is

/-- What every step keeps holds at the end of a run. -/
theorem feed_invariant (Inv : σ → Prop)
    (hstep : ∀ s i, Inv s → Inv (step s i).1) {s : σ} (hinit : Inv s)
    (is : List ι) : Inv (feed step s is).1 := by
  induction is generalizing s with
  | nil => exact hinit
  | cons i is ih => exact ih (hstep s i hinit)

/-- Transducers whose steps keep a relation of their states and put out the same put out
the same over each input. -/
theorem feed_related {τ : Type*} {step' : τ → ι → τ × List ω} (R : σ → τ → Prop)
    (hstep : ∀ s t i, R s t → R (step s i).1 (step' t i).1 ∧ (step s i).2 = (step' t i).2)
    {s : σ} {t : τ} (hinit : R s t) (is : List ι) :
    R (feed step s is).1 (feed step' t is).1 ∧ (feed step s is).2 = (feed step' t is).2 := by
  induction is generalizing s t with
  | nil => exact ⟨hinit, rfl⟩
  | cons i is ih =>
      obtain ⟨hR, hout⟩ := hstep s t i hinit
      obtain ⟨hlast, hrest⟩ := ih hR
      exact ⟨hlast, by rw [feed_cons, feed_cons, hout, hrest]⟩

end Feed

/-! ## Transducers side by side -/

section Keyed

variable {κ : Type*} [DecidableEq κ]

/-- Give the input to the transducer of its key; the others stay as they are.
The output is marked with the key. -/
def keyed (key : ι → κ) (step : κ → σ → ι → σ × List ω) (s : κ → σ) (i : ι) :
    (κ → σ) × List (κ × ω) :=
  let (next, out) := step (key i) (s (key i)) i
  (Function.update s (key i) next, out.map (Prod.mk (key i)))

/-- The outputs that are marked with a key. -/
def outputsOf (k : κ) (outputs : List (κ × ω)) : List ω :=
  (outputs.filter (fun output => output.1 == k)).map Prod.snd

theorem outputsOf_append (k : κ) (xs ys : List (κ × ω)) :
    outputsOf k (xs ++ ys) = outputsOf k xs ++ outputsOf k ys := by
  simp [outputsOf]

theorem mem_outputsOf {output : κ × ω} {outputs : List (κ × ω)} (h : output ∈ outputs) :
    output.2 ∈ outputsOf output.1 outputs :=
  List.mem_map_of_mem (List.mem_filter.mpr ⟨h, beq_self_eq_true _⟩)

/-- What only outputs with one key are, is found among the outputs with this key. -/
theorem filter_outputsOf {k : κ} {p : ω → Bool} {outputs : List (κ × ω)}
    (h : ∀ output ∈ outputs, output.1 ≠ k → p output.2 = false) :
    (outputs.map Prod.snd).filter p = (outputsOf k outputs).filter p := by
  induction outputs with
  | nil => rfl
  | cons output outputs ih =>
      have hrest := ih fun output' hmem => h output' (List.mem_cons_of_mem _ hmem)
      by_cases hkey : output.1 = k
      · rw [outputsOf, List.filter_cons_of_pos (by simp [hkey]), List.map_cons, List.map_cons,
          List.filter_cons, List.filter_cons, hrest]
        rfl
      · rw [outputsOf, List.filter_cons_of_neg (by simp [hkey]), List.map_cons,
          List.filter_cons_of_neg (by simp [h output List.mem_cons_self hkey]), hrest]
        rfl

theorem outputsOf_map_mk (k k' : κ) (outputs : List ω) :
    outputsOf k (outputs.map (Prod.mk k')) = if k' = k then outputs else [] := by
  by_cases h : k' = k
  · simp [outputsOf, List.filter_map, Function.comp_def, h]
  · simp [outputsOf, List.filter_map, Function.comp_def, h]

theorem outputsOf_flatMap {α : Type*} (k : κ) (f : α → List (κ × ω)) (as : List α) :
    outputsOf k (as.flatMap f) = as.flatMap fun a => outputsOf k (f a) := by
  induction as with
  | nil => rfl
  | cons a as ih => simp [outputsOf_append, ih]

/-- One output to each of a list of keys without repetition. -/
theorem outputsOf_map_const {k : κ} {ks : List κ} (hnodup : ks.Nodup) (hmem : k ∈ ks)
    (output : ω) : outputsOf k (ks.map fun k' => (k', output)) = [output] := by
  have hcount : (ks.filter (fun k' => k' == k)) = [k] := by
    rw [List.filter_beq, List.count_eq_one_of_mem hnodup hmem, List.replicate_one]
  simp [outputsOf, List.filter_map, Function.comp_def, hcount]

theorem outputsOf_map_const_of_not_mem {k : κ} {ks : List κ} (hmem : k ∉ ks) (output : ω) :
    outputsOf k (ks.map fun k' => (k', output)) = [] := by
  rw [outputsOf, List.map_eq_nil_iff, List.filter_eq_nil_iff]
  rintro marked hmarked heq
  obtain ⟨k', hk', rfl⟩ := List.mem_map.mp hmarked
  exact hmem (beq_iff_eq.mp heq ▸ hk')

variable {key : ι → κ} {step : κ → σ → ι → σ × List ω}

/-- In a shared run each transducer ends, and puts out, as in a run of its own
over the inputs with its key. -/
theorem feed_keyed (k : κ) (s : κ → σ) (is : List ι) :
    ((feed (keyed key step) s is).1 k,
        outputsOf k (feed (keyed key step) s is).2) =
      feed (step k) (s k) (is.filter (fun i => key i == k)) := by
  induction is generalizing s with
  | nil => rfl
  | cons i is ih =>
      have hrest := ih (keyed key step s i).1
      rw [Prod.mk.injEq] at hrest
      rw [feed_cons, outputsOf_append, hrest.1, hrest.2]
      simp only [keyed, outputsOf_map_mk]
      by_cases hkey : key i = k
      · subst hkey
        simp [feed_cons]
      · simp [hkey, Function.update_of_ne (Ne.symm hkey)]

end Keyed

/-! ## Steps that could fail -/

/-- A run of a step that has no result where it fails. -/
def tryFeed (step : σ → ι → Option (σ × List ω)) : σ → List ι → Option (σ × List ω)
  | s, [] => some (s, [])
  | s, i :: is =>
      match step s i with
      | none => none
      | some (s, out) =>
          match tryFeed step s is with
          | none => none
          | some (s, rest) => some (s, out ++ rest)

/-- A step that always has a result is that of a transducer. -/
theorem tryFeed_some {step : σ → ι → σ × List ω} (s : σ) (is : List ι) :
    tryFeed (fun s i => some (step s i)) s is = some (feed step s is) := by
  induction is generalizing s with
  | nil => rfl
  | cons i is ih => simp [tryFeed, ih, feed_cons]

theorem tryFeed_cons {step : σ → ι → Option (σ × List ω)} {s last : σ} {i : ι}
    {is : List ι} {out : List ω} (h : tryFeed step s (i :: is) = some (last, out)) :
    ∃ next first rest, step s i = some (next, first) ∧
      tryFeed step next is = some (last, rest) ∧ out = first ++ rest := by
  simp only [tryFeed] at h
  split at h
  · cases h
  · next next first hstep =>
      split at h
      · cases h
      · next last' rest hrest =>
          cases h
          exact ⟨next, first, rest, hstep, hrest, rfl⟩

/-- What each step keeps of the state and puts out, a run that does not fail keeps
and puts out. -/
theorem tryFeed_invariant {step : σ → ι → Option (σ × List ω)} (Inv : σ → Prop)
    (P : ω → Prop)
    (hstep : ∀ s i next out, Inv s → step s i = some (next, out) →
      Inv next ∧ ∀ o ∈ out, P o)
    {s last : σ} {is : List ι} {out : List ω} (hinit : Inv s)
    (hrun : tryFeed step s is = some (last, out)) : Inv last ∧ ∀ o ∈ out, P o := by
  induction is generalizing s out with
  | nil =>
      cases hrun
      exact ⟨hinit, by simp⟩
  | cons i is ih =>
      obtain ⟨next, first, rest, hnext, hrest, rfl⟩ := tryFeed_cons hrun
      obtain ⟨hinv, hfirst⟩ := hstep s i next first hinit hnext
      obtain ⟨hlast, hP⟩ := ih hinv hrest
      refine ⟨hlast, fun o hmem => ?_⟩
      rcases List.mem_append.mp hmem with hmem | hmem
      · exact hfirst o hmem
      · exact hP o hmem

/-- Where an invariant rules the failure out, a run is the run of a transducer
on what the state stands for. -/
theorem tryFeed_eq_some {τ : Type*} {step : σ → ι → Option (σ × List ω)}
    {total : τ → ι → τ × List ω} (Inv : σ → Prop) (view : σ → τ)
    (hstep : ∀ s i, Inv s → ∃ next, Inv next ∧
      view next = (total (view s) i).1 ∧ step s i = some (next, (total (view s) i).2))
    {s : σ} (hinit : Inv s) (is : List ι) :
    ∃ last, Inv last ∧ view last = (feed total (view s) is).1 ∧
      tryFeed step s is = some (last, (feed total (view s) is).2) := by
  induction is generalizing s with
  | nil => exact ⟨s, hinit, rfl, rfl⟩
  | cons i is ih =>
      obtain ⟨next, hnext, hview, heq⟩ := hstep s i hinit
      obtain ⟨last, hlast, hviewLast, hrest⟩ := ih hnext
      rw [hview] at hviewLast hrest
      exact ⟨last, hlast, hviewLast, by simp [tryFeed, heq, hrest, feed_cons]⟩

/-- Steps that keep a relation of their states, put out the same and fail together do so
over each input. -/
theorem tryFeed_related {τ : Type*} {step : σ → ι → Option (σ × List ω)}
    {step' : τ → ι → Option (τ × List ω)} (R : σ → τ → Prop)
    (hstep : ∀ s t i, R s t →
      Option.Rel (fun next next' => R next.1 next'.1 ∧ next.2 = next'.2) (step s i) (step' t i))
    {s : σ} {t : τ} (hinit : R s t) (is : List ι) :
    (tryFeed step s is).map Prod.snd = (tryFeed step' t is).map Prod.snd := by
  induction is generalizing s t with
  | nil => rfl
  | cons i is ih =>
      have hnext := hstep s t i hinit
      simp only [tryFeed]
      generalize step s i = next at hnext
      generalize step' t i = next' at hnext
      cases hnext with
      | none => rfl
      | @some next next' hboth =>
          obtain ⟨s, out⟩ := next
          obtain ⟨t, out'⟩ := next'
          obtain ⟨hR, rfl⟩ := hboth
          have hrest := ih hR
          dsimp only
          generalize tryFeed step s is = last at hrest
          generalize tryFeed step' t is = last' at hrest
          rcases last with - | ⟨last, rest⟩ <;> rcases last' with - | ⟨last', rest'⟩
          · rfl
          · cases hrest
          · cases hrest
          · have hsame : rest = rest' := Option.some.inj hrest
            rw [hsame]
            rfl

/-! ## One transducer after another -/

section Pipe

variable {τ ω' : Type*} {first : σ → ι → Option (σ × List ω)}
  {second : τ → ω → τ × List ω'}

/-- What the first step puts out, where it does not fail, is the input of a transducer. -/
def pipe (first : σ → ι → Option (σ × List ω)) (second : τ → ω → τ × List ω') (s : σ × τ)
    (i : ι) : Option ((σ × τ) × List ω') :=
  (first s.1 i).map fun next =>
    ((next.1, (feed second s.2 next.2).1), (feed second s.2 next.2).2)

/-- A run of the two in a row is a run of the transducer over what the steps put out in a
run. -/
theorem tryFeed_pipe (s : σ × τ) (is : List ι) :
    tryFeed (pipe first second) s is = (tryFeed first s.1 is).map fun last =>
      ((last.1, (feed second s.2 last.2).1), (feed second s.2 last.2).2) := by
  induction is generalizing s with
  | nil => rfl
  | cons i is ih =>
      simp only [tryFeed, pipe]
      cases first s.1 i with
      | none => rfl
      | some next =>
          simp only [Option.map_some, ih]
          cases tryFeed first next.1 is with
          | none => rfl
          | some last => simp only [Option.map_some, feed_append]

end Pipe

end Machine
