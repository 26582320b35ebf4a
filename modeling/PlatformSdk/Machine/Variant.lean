import Mathlib.Data.Option.Defs
import Mathlib.Logic.Function.Basic
import PlatformSdk.Machine.Attempt
import PlatformSdk.Machine.Run

/-!
# Objects of a variant type

A variant type has a tag and a union with one member for each tag but that of the empty
value.  An object is assigned to by destroying its value and constructing that of the
other object in its place.  The module is about any such type: it compares programs that
construct, copy and assign objects with the same programs over plain values, and finds
that they differ at the assignments of an object to itself.
-/

namespace Machine

/-- An object by its tag and the member of its union that is alive, or the empty value
where none is. -/
structure Object (τ ν : Type) where
  tag : τ
  member : ν
  deriving DecidableEq

/-- A variant type with values `ν`: what the functions of its class do to an object.
`construct` is given the object and the one whose value it takes. -/
structure Variant (τ ν : Type) where
  kind : ν → τ
  empty : ν
  fresh : Object τ ν
  init : ν → Object τ ν
  destruct : Object τ ν → Attempt (Object τ ν)
  construct : Object τ ν → Object τ ν → Attempt (Object τ ν)

variable {τ ν ι : Type}

/-- The destructor of the member with a tag is called.  Another member must not be
alive. -/
def Object.destroy [DecidableEq τ] (kind : ν → τ) (empty : ν) (tag : τ)
    (o : Object τ ν) : Attempt (Object τ ν) :=
  if kind o.member = tag then .returns { o with member := empty } else .undefined

namespace Variant

variable (V : Variant τ ν)

/-- The object has the value: its tag and, unless it is empty, its member. -/
def Holds (o : Object τ ν) (value : ν) : Prop :=
  o.tag = V.kind value ∧ (value ≠ V.empty → o.member = value)

/-- The functions of the class do what they are for, as long as the object that is
constructed is empty. -/
structure IsLawful : Prop where
  kind_injective : ∀ value, V.kind value = V.kind V.empty → value = V.empty
  fresh : V.Holds V.fresh V.empty
  init : ∀ value, V.Holds (V.init value) value
  destruct : ∀ o value, V.Holds o value →
    ∃ o', V.destruct o = .returns o' ∧ V.Holds o' V.empty
  construct : ∀ o other value, V.Holds o V.empty → V.Holds other value →
    ∃ o', V.construct o other = .returns o' ∧ V.Holds o' value

variable {V} in
theorem Holds.eq_mk {o : Object τ ν} {value : ν} (h : V.Holds o value)
    (hne : value ≠ V.empty) : o = ⟨V.kind value, value⟩ := by
  obtain ⟨tag, member⟩ := o
  obtain ⟨htag, hmember⟩ := h
  dsimp only at htag hmember
  rw [htag, hmember hne]

variable {V} in
theorem holds_empty_iff {o : Object τ ν} : V.Holds o V.empty ↔ o.tag = V.kind V.empty :=
  ⟨fun h => h.1, fun htag => ⟨htag, fun hne => absurd rfl hne⟩⟩

variable {V} in
/-- What is left to show of a class, for objects without a value and for objects with
one. -/
theorem IsLawful.of_cases
    (kind_injective : ∀ value, V.kind value = V.kind V.empty → value = V.empty)
    (fresh : V.fresh.tag = V.kind V.empty) (init : ∀ value, V.Holds (V.init value) value)
    (destruct_empty : ∀ o, o.tag = V.kind V.empty →
      ∃ o', V.destruct o = .returns o' ∧ o'.tag = V.kind V.empty)
    (destruct : ∀ value, value ≠ V.empty →
      ∃ o', V.destruct ⟨V.kind value, value⟩ = .returns o' ∧ o'.tag = V.kind V.empty)
    (construct_empty : ∀ o other, o.tag = V.kind V.empty → other.tag = V.kind V.empty →
      ∃ o', V.construct o other = .returns o' ∧ o'.tag = V.kind V.empty)
    (construct : ∀ o value, o.tag = V.kind V.empty → value ≠ V.empty →
      V.construct o ⟨V.kind value, value⟩ = .returns ⟨V.kind value, value⟩) :
    V.IsLawful where
  kind_injective := kind_injective
  fresh := holds_empty_iff.mpr fresh
  init := init
  destruct := by
    intro o value h
    by_cases hne : value = V.empty
    · obtain ⟨o', ho', htag⟩ := destruct_empty o (hne ▸ h.1)
      exact ⟨o', ho', holds_empty_iff.mpr htag⟩
    · obtain rfl := h.eq_mk hne
      obtain ⟨o', ho', htag⟩ := destruct value hne
      exact ⟨o', ho', holds_empty_iff.mpr htag⟩
  construct := by
    intro o other value ho h
    by_cases hne : value = V.empty
    · subst hne
      obtain ⟨o', ho', htag⟩ := construct_empty o other ho.1 h.1
      exact ⟨o', ho', holds_empty_iff.mpr htag⟩
    · obtain rfl := h.eq_mk hne
      exact ⟨_, construct o value ho.1 hne, rfl, fun _ => rfl⟩

/-- The copy constructor. -/
def copyConstruct (other : Object τ ν) : Attempt (Object τ ν) :=
  V.construct V.fresh other

/-- `operator=` for two objects. -/
def assign (o other : Object τ ν) : Attempt (Object τ ν) := do
  let o ← V.destruct o
  V.construct o other

variable {V}

theorem IsLawful.copyConstruct (hV : V.IsLawful) {other : Object τ ν} {value : ν}
    (h : V.Holds other value) :
    ∃ o, V.copyConstruct other = .returns o ∧ V.Holds o value :=
  hV.construct V.fresh other value hV.fresh h

theorem IsLawful.assign (hV : V.IsLawful) {o other : Object τ ν} {before value : ν}
    (ho : V.Holds o before) (h : V.Holds other value) :
    ∃ o', V.assign o other = .returns o' ∧ V.Holds o' value := by
  obtain ⟨destroyed, hdestruct, hempty⟩ := hV.destruct o before ho
  rw [Variant.assign, hdestruct]
  exact hV.construct destroyed other value hempty h

end Variant

/-- A statement of a program over objects with names. -/
inductive Variant.Statement (ι ν : Type) where
  | construct (i : ι) (value : ν)
  | copyConstruct (i j : ι)
  | assign (i j : ι)

/-- The objects of a program, unless something undefined has happened, and what values
they are to have. -/
structure Variant.Objects (ι τ ν : Type) where
  objects : Attempt (ι → Option (Object τ ν))
  values : ι → Option ν

namespace Variant

/-- A program at its beginning has no objects. -/
def Objects.none : Objects ι τ ν := ⟨.returns fun _ => Option.none, fun _ => Option.none⟩

variable [DecidableEq ι] (V : Variant τ ν)

/-- What a statement does to plain values; `none` where a name is used before its object
is constructed, or another object is constructed under its name. -/
def valueStep (values : ι → Option ν) : Statement ι ν → Option (ι → Option ν)
  | .construct i value =>
      match values i with
      | none => some (Function.update values i (some value))
      | some _ => none
  | .copyConstruct i j =>
      match values i, values j with
      | none, some value => some (Function.update values i (some value))
      | _, _ => none
  | .assign i j =>
      match values i, values j with
      | some _, some value => some (Function.update values i (some value))
      | _, _ => none

/-- What a statement does to the objects.  When an object is assigned to, the other one is
read after its value was destroyed. -/
def objectStep (objects : ι → Option (Object τ ν)) :
    Statement ι ν → Attempt (ι → Option (Object τ ν))
  | .construct i value => .returns (Function.update objects i (some (V.init value)))
  | .copyConstruct i j =>
      match objects j with
      | none => .undefined
      | some other => do
          let o ← V.copyConstruct other
          .returns (Function.update objects i (some o))
  | .assign i j =>
      match objects i with
      | none => .undefined
      | some o => do
          let o ← V.destruct o
          match Function.update objects i (some o) j with
          | none => .undefined
          | some other => do
              let o ← V.construct o other
              .returns (Function.update objects i (some o))

def step (s : Objects ι τ ν) (e : Statement ι ν) : Option (Objects ι τ ν) :=
  match valueStep s.values e with
  | none => none
  | some values => some
      { objects := s.objects >>= fun objects => V.objectStep objects e, values }

/-- Every object that was constructed has its value. -/
def Agree (s : Objects ι τ ν) : Prop :=
  ∃ objects, s.objects = .returns objects ∧ ∀ i, Option.Rel V.Holds (objects i) (s.values i)

/-- If the statement assigns an object to itself, the object is empty. -/
def Spares (s : Objects ι τ ν) : Statement ι ν → Prop
  | .assign i j => i = j → ∀ value, s.values i = some value → value = V.empty
  | _ => True

/-- After each statement of the program every object has the value that it is to have. -/
def HasValueSemantics (es : List (Statement ι ν)) : Prop :=
  Along V.step V.Agree .none es

/-- The program assigns no object to itself that has a value. -/
def SparesValues (es : List (Statement ι ν)) : Prop :=
  Meets V.step V.Spares .none es

/-! ## What a statement comes to -/

variable {V} {objects : ι → Option (Object τ ν)} {values values' : ι → Option ν}

theorem valueStep_construct_eq_some_iff {i : ι} {value : ν} :
    valueStep values (.construct i value) = some values' ↔
      values i = none ∧ values' = Function.update values i (some value) := by
  rw [valueStep]
  cases values i with
  | none => simp [eq_comm]
  | some _ => simp

theorem valueStep_copyConstruct_eq_some_iff {i j : ι} :
    valueStep values (.copyConstruct i j) = some values' ↔
      values i = none ∧
        ∃ value, values j = some value ∧ values' = Function.update values i (some value) := by
  rw [valueStep]
  cases values i with
  | some _ => simp
  | none => cases values j <;> simp [eq_comm]

theorem valueStep_assign_eq_some_iff {i j : ι} :
    valueStep values (.assign i j) = some values' ↔
      ∃ before value, values i = some before ∧ values j = some value ∧
        values' = Function.update values i (some value) := by
  rw [valueStep]
  cases values i with
  | none => simp
  | some _ => cases values j <;> simp [eq_comm]

theorem step_eq_some_iff {s s' : Objects ι τ ν} {e : Statement ι ν} :
    V.step s e = some s' ↔ ∃ values, valueStep s.values e = some values ∧
      s' = ⟨s.objects >>= fun objects => V.objectStep objects e, values⟩ := by
  rw [step]
  cases valueStep s.values e with
  | none => simp
  | some values => simp [eq_comm]

omit [DecidableEq ι] in
theorem exists_object {i : ι} {value : ν}
    (h : ∀ i, Option.Rel V.Holds (objects i) (values i)) (hvalue : values i = some value) :
    ∃ o, objects i = some o ∧ V.Holds o value := by
  have hi := h i
  rw [hvalue] at hi
  cases hobject : objects i with
  | none =>
      rw [hobject] at hi
      cases hi
  | some o =>
      rw [hobject] at hi
      cases hi with
      | some hholds => exact ⟨o, rfl, hholds⟩

/-- One object and its value change. -/
theorem rel_update (h : ∀ i, Option.Rel V.Holds (objects i) (values i)) (i : ι)
    {o : Object τ ν} {value : ν} (hholds : V.Holds o value) :
    ∀ i', Option.Rel V.Holds (Function.update objects i (some o) i')
      (Function.update values i (some value) i') := by
  intro i'
  by_cases heq : i' = i
  · subst heq
    rw [Function.update_self, Function.update_self]
    exact .some hholds
  · rw [Function.update_of_ne heq, Function.update_of_ne heq]
    exact h i'

/-- Only an empty object keeps its value when its value is destroyed. -/
theorem IsLawful.eq_empty (hV : V.IsLawful) {o : Object τ ν} {value : ν}
    (hempty : V.Holds o V.empty) (hvalue : V.Holds o value) : value = V.empty :=
  hV.kind_injective value (hvalue.1.symm.trans hempty.1)

theorem objectStep_copyConstruct (hV : V.IsLawful)
    (h : ∀ i, Option.Rel V.Holds (objects i) (values i)) (i : ι) {j : ι} {value : ν}
    (hvalue : values j = some value) :
    ∃ o, V.objectStep objects (.copyConstruct i j) =
      .returns (Function.update objects i (some o)) ∧ V.Holds o value := by
  obtain ⟨other, hother, hholds⟩ := exists_object h hvalue
  obtain ⟨o, ho, hholds⟩ := hV.copyConstruct hholds
  refine ⟨o, ?_, hholds⟩
  rw [objectStep, hother]
  dsimp only
  rw [ho]
  rfl

/-- An object that is assigned to another one takes its value. -/
theorem objectStep_assign (hV : V.IsLawful)
    (h : ∀ i, Option.Rel V.Holds (objects i) (values i)) {i j : ι} {before value : ν}
    (hne : i ≠ j) (hbefore : values i = some before) (hvalue : values j = some value) :
    ∃ o, V.objectStep objects (.assign i j) =
      .returns (Function.update objects i (some o)) ∧ V.Holds o value := by
  obtain ⟨target, htarget, htargetHolds⟩ := exists_object h hbefore
  obtain ⟨other, hother, hholds⟩ := exists_object h hvalue
  obtain ⟨destroyed, hdestruct, hempty⟩ := hV.destruct target before htargetHolds
  obtain ⟨o, ho, hholds⟩ := hV.construct destroyed other value hempty hholds
  refine ⟨o, ?_, hholds⟩
  rw [objectStep, htarget]
  dsimp only
  rw [hdestruct, Attempt.returns_bind, Function.update_of_ne hne.symm, hother]
  dsimp only
  rw [ho]
  rfl

/-- An object that is assigned to itself is empty afterwards. -/
theorem objectStep_assign_self (hV : V.IsLawful)
    (h : ∀ i, Option.Rel V.Holds (objects i) (values i)) {i : ι} {value : ν}
    (hvalue : values i = some value) :
    ∃ o, V.objectStep objects (.assign i i) =
      .returns (Function.update objects i (some o)) ∧ V.Holds o V.empty := by
  obtain ⟨target, htarget, htargetHolds⟩ := exists_object h hvalue
  obtain ⟨destroyed, hdestruct, hempty⟩ := hV.destruct target value htargetHolds
  obtain ⟨o, ho, hholds⟩ := hV.construct destroyed destroyed V.empty hempty hempty
  refine ⟨o, ?_, hholds⟩
  rw [objectStep, htarget]
  dsimp only
  rw [hdestruct, Attempt.returns_bind, Function.update_self]
  dsimp only
  rw [ho]
  rfl

/-- An object keeps its value when it is assigned to itself only where it is empty. -/
theorem agree_assign_self_iff (hV : V.IsLawful)
    (h : ∀ i, Option.Rel V.Holds (objects i) (values i)) {i : ι} {value : ν}
    (hvalue : values i = some value) :
    V.Agree ⟨V.objectStep objects (.assign i i), Function.update values i (some value)⟩ ↔
      value = V.empty := by
  obtain ⟨o, ho, hempty⟩ := objectStep_assign_self hV h hvalue
  constructor
  · rintro ⟨objects', hobjects', hrel⟩
    dsimp only at hobjects' hrel
    obtain rfl := Attempt.returns.inj (ho.symm.trans hobjects')
    obtain ⟨o', ho', hholds⟩ := exists_object hrel (Function.update_self i (some value) values)
    rw [Function.update_self] at ho'
    obtain rfl := Option.some.inj ho'
    exact hV.eq_empty hempty hholds
  · rintro rfl
    exact ⟨_, ho, rel_update h i hempty⟩

/-- The objects agree with the values after a statement just when it spares the values. -/
theorem agree_step_iff (hV : V.IsLawful) {s s' : Objects ι τ ν} {e : Statement ι ν}
    (h : V.Agree s) (hstep : V.step s e = some s') : V.Agree s' ↔ V.Spares s e := by
  obtain ⟨objects, hobjects, hrel⟩ := h
  obtain ⟨_, values⟩ := s
  dsimp only at hobjects hrel
  subst hobjects
  obtain ⟨values', hvalues, rfl⟩ := step_eq_some_iff.mp hstep
  dsimp only at hvalues ⊢
  rw [Attempt.returns_bind]
  cases e with
  | construct i value =>
      obtain ⟨-, rfl⟩ := valueStep_construct_eq_some_iff.mp hvalues
      exact ⟨fun _ => trivial, fun _ => ⟨_, rfl, rel_update hrel i (hV.init value)⟩⟩
  | copyConstruct i j =>
      obtain ⟨-, value, hvalue, rfl⟩ := valueStep_copyConstruct_eq_some_iff.mp hvalues
      obtain ⟨o, ho, hholds⟩ := objectStep_copyConstruct hV hrel i hvalue
      exact ⟨fun _ => trivial, fun _ => ⟨_, ho, rel_update hrel i hholds⟩⟩
  | assign i j =>
      obtain ⟨before, value, hbefore, hvalue, rfl⟩ := valueStep_assign_eq_some_iff.mp hvalues
      by_cases heq : i = j
      · subst heq
        rw [agree_assign_self_iff hV hrel hvalue]
        constructor
        · rintro rfl _ old hold
          exact Option.some.inj (hold.symm.trans hvalue)
        · intro hspares
          exact hspares rfl value hvalue
      · obtain ⟨o, ho, hholds⟩ := objectStep_assign hV hrel heq hbefore hvalue
        exact ⟨fun _ heq' => absurd heq' heq, fun _ => ⟨_, ho, rel_update hrel i hholds⟩⟩

/-- A statement that cannot be executed does nothing to any value. -/
theorem spares_of_step_eq_none {s : Objects ι τ ν} {e : Statement ι ν}
    (h : V.step s e = none) : V.Spares s e := by
  cases e with
  | construct i value => trivial
  | copyConstruct i j => trivial
  | assign i j =>
      rintro rfl value hvalue
      simp [step, valueStep, hvalue] at h

/-- Objects have value semantics in just the programs that assign no object to itself
unless it is empty. -/
theorem hasValueSemantics_iff (hV : V.IsLawful) (es : List (Statement ι ν)) :
    V.HasValueSemantics es ↔ V.SparesValues es :=
  along_iff_meets (fun _ => True) (fun _ _ _ _ _ _ _ => trivial)
    (fun _ _ _ _ hagree hstep => agree_step_iff hV hagree hstep)
    (fun _ _ hstep => spares_of_step_eq_none hstep) trivial
    ⟨_, rfl, fun _ => .none⟩

/-- An object that is assigned to itself loses its value. -/
theorem not_hasValueSemantics_assign_self (hV : V.IsLawful) {value : ν}
    (hne : value ≠ V.empty) (i : ι) :
    ¬ V.HasValueSemantics [.construct i value, .assign i i] := by
  rw [hasValueSemantics_iff hV]
  rintro ⟨-, hassign, -⟩
  have hvalue : Function.update (fun _ : ι => (none : Option ν)) i (some value) i =
      some value := Function.update_self i _ _
  exact hne (hassign rfl value hvalue)

end Variant

end Machine
