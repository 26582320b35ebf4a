import PlatformSdk.Compare.OrderedMap
import PlatformSdk.Error.Order
import PlatformSdk.Machine.Run

/-!
# The values of an error

The setter `Error::value` over a run of calls.  That a key must not be composed is only
found out by `operator<`, which is not called for the first entry of the map.
-/

namespace Airmap.Error

open Machine

/-- A call of the setter `value`, with the shape of the tree that the map is at that
time. -/
structure ValueCall where
  shape : Compare.Shape Variant Variant
  key : Variant
  value : Variant

/-- `Error::value`, the setter.  Keys are compared before anything in the map changes. -/
def setValue (values : List (Variant × Variant)) (call : ValueCall) :
    Attempt Unit × List (Variant × Variant) :=
  match Compare.assign Variant.lt call.shape call.key call.value values with
  | .returns values' => (.returns (), values')
  | .throws what => (.throws what, values)
  | .undefined => (.undefined, values)

/-- The values after a call. -/
def step (values : List (Variant × Variant)) (call : ValueCall) :
    Option (List (Variant × Variant)) :=
  some (setValue values call).2

/-- No key is a dictionary or a vector. -/
def HasBasicKeys (values : List (Variant × Variant)) : Prop :=
  ∀ entry ∈ values, entry.1.isBasicType = true

theorem lt_of_composed_right {a b : Variant} (h : b.isBasicType = false) :
    a.lt b = .throws "cannot compare non-basic types" := by
  rw [Variant.lt, h, if_pos (by simp)]

theorem exists_lt {a b : Variant} (ha : a.isBasicType = true) (hb : b.isBasicType = true) :
    ∃ less, a.lt b = .returns less := by
  rw [Variant.lt_of_basic ha hb]
  by_cases hkind : a.kind ≠ b.kind
  · exact ⟨_, if_pos hkind⟩
  · exact ⟨_, if_neg hkind⟩

/-- A composed key is compared with one of the keys that are there. -/
theorem setValue_of_composed {values : List (Variant × Variant)} {call : ValueCall}
    (hne : values ≠ []) (h : call.key.isBasicType = false) :
    setValue values call = (.throws "cannot compare non-basic types", values) := by
  rw [setValue, Compare.assign_throws hne fun _ _ => lt_of_composed_right h]

theorem exists_setValue_of_basic {values : List (Variant × Variant)} {call : ValueCall}
    (hvalues : HasBasicKeys values) (h : call.key.isBasicType = true) :
    ∃ values', setValue values call = (.returns (), values') ∧ values' ≠ [] ∧
      HasBasicKeys values' := by
  obtain ⟨values', hassign, hne, hkeys⟩ := Compare.exists_assign call.shape call.value
    (fun entry hmem => exists_lt (hvalues entry hmem) h)
    (fun entry hmem => exists_lt h (hvalues entry hmem))
  refine ⟨values', by rw [setValue, hassign], hne, ?_⟩
  intro entry hmem
  rcases hkeys entry hmem with hkey | ⟨old, hold, hkey⟩
  · rwa [hkey]
  · rw [← hkey]
    exact hvalues old hold

/-- A call throws just when its key is composed, which changes nothing, and afterwards all
keys are basic. -/
structure RejectsComposedKey (values : List (Variant × Variant)) (call : ValueCall) :
    Prop where
  throws_iff : (∃ what, (setValue values call).1 = .throws what) ↔
    call.key.isBasicType = false
  returns_iff : (setValue values call).1 = .returns () ↔ call.key.isBasicType = true
  unchanged : (∃ what, (setValue values call).1 = .throws what) →
    (setValue values call).2 = values
  basic : HasBasicKeys (setValue values call).2

theorem rejectsComposedKey_of_basic {values : List (Variant × Variant)} {call : ValueCall}
    (hvalues : HasBasicKeys values) (h : call.key.isBasicType = true) :
    RejectsComposedKey values call := by
  obtain ⟨values', hset, -, hbasic⟩ := exists_setValue_of_basic hvalues h
  constructor
  · simp [hset, h]
  · simp [hset, h]
  · simp [hset]
  · rwa [hset]

theorem rejectsComposedKey_of_ne_nil {values : List (Variant × Variant)} {call : ValueCall}
    (hne : values ≠ []) (hvalues : HasBasicKeys values) : RejectsComposedKey values call := by
  cases hkey : call.key.isBasicType with
  | true => exact rejectsComposedKey_of_basic hvalues hkey
  | false =>
      have hset := setValue_of_composed hne hkey
      constructor
      · simp [hset, hkey]
      · simp [hset, hkey]
      · simp [hset]
      · rwa [hset]

/-- Once there is an entry, composed keys are rejected for good. -/
theorem meets_of_ne_nil {values : List (Variant × Variant)} (calls : List ValueCall)
    (hne : values ≠ []) (hvalues : HasBasicKeys values) :
    Meets step RejectsComposedKey values calls := by
  induction calls generalizing values with
  | nil => trivial
  | cons call calls ih =>
      refine ⟨rejectsComposedKey_of_ne_nil hne hvalues, ?_⟩
      rw [step]
      cases hkey : call.key.isBasicType with
      | true =>
          obtain ⟨values', hset, hne', hbasic⟩ := exists_setValue_of_basic hvalues hkey
          rw [hset]
          exact ih hne' hbasic
      | false =>
          rw [setValue_of_composed hne hkey]
          exact ih hne hvalues

theorem setValue_nil (call : ValueCall) :
    setValue [] call = (.returns (), [(call.key, call.value)]) := by
  rw [setValue, Compare.assign_nil]

/-- Every call of a run rejects composed keys just when the key of the first one is
basic. -/
theorem rejectsComposedKeys_iff (calls : List ValueCall) :
    Meets step RejectsComposedKey [] calls ↔
      ∀ call ∈ calls.head?, call.key.isBasicType = true := by
  cases calls with
  | nil => simp [Meets]
  | cons call calls =>
      rw [List.head?_cons]
      constructor
      · rintro ⟨hfirst, -⟩ first hmem
        obtain rfl := Option.mem_some.mp hmem
        exact hfirst.returns_iff.mp (by rw [setValue_nil])
      · intro h
        have hkey := h call rfl
        have hnone : HasBasicKeys [] := fun entry hmem => absurd hmem List.not_mem_nil
        refine ⟨rejectsComposedKey_of_basic hnone hkey, ?_⟩
        obtain ⟨values', hset, hne, hbasic⟩ := exists_setValue_of_basic hnone hkey
        rw [step, hset]
        exact meets_of_ne_nil calls hne hbasic

/-- The first key may be a dictionary. -/
theorem dictionary_not_rejected :
    ¬ ∀ calls : List ValueCall, Meets step RejectsComposedKey [] calls := by
  intro h
  have hbasic := (h [⟨fun _ => 0, .dictionary [], .undefined⟩]).1.returns_iff.mp
    (by rw [setValue_nil])
  cases hbasic

end Airmap.Error
