import PlatformSdk.Error.Object
import PlatformSdk.Geometry.Object
import PlatformSdk.RuleSet.Feature
import PlatformSdk.Token.Object

/-!
# The classes with a union

What is true of any variant type, for the four of them that are assigned to by destroying
a value and constructing another one.
-/

namespace Airmap

open Machine Variant

/-- Objects of the four classes have value semantics in just the programs that assign no
object to itself unless it is empty. -/
theorem variants_hasValueSemantics_iff {ι : Type} [DecidableEq ι] :
    (∀ es : List (Statement ι Geometry),
      Geometry.variant.HasValueSemantics es ↔ Geometry.variant.SparesValues es) ∧
    (∀ es : List (Statement ι Token),
      Token.variant.HasValueSemantics es ↔ Token.variant.SparesValues es) ∧
    (∀ es : List (Statement ι Error.Variant),
      Error.Variant.variant.HasValueSemantics es ↔ Error.Variant.variant.SparesValues es) ∧
    (∀ es : List (Statement ι RuleSet.Feature.Value),
      RuleSet.Feature.Value.variant.HasValueSemantics es ↔
        RuleSet.Feature.Value.variant.SparesValues es) :=
  ⟨hasValueSemantics_iff Geometry.variant_isLawful,
    hasValueSemantics_iff Token.variant_isLawful,
    hasValueSemantics_iff Error.Variant.variant_isLawful,
    hasValueSemantics_iff RuleSet.Feature.Value.variant_isLawful⟩

/-- In all four classes there is a value that is lost when its object is assigned to
itself. -/
theorem assign_self_not_hasValueSemantics :
    ¬ Geometry.variant.HasValueSemantics
        [.construct 0 (.polygon { outerRing := [] }), .assign 0 0] ∧
    ¬ Token.variant.HasValueSemantics [.construct 0 (.refreshed {}), .assign 0 0] ∧
    ¬ Error.Variant.variant.HasValueSemantics
        [.construct 0 (.string "value"), .assign 0 0] ∧
    ¬ RuleSet.Feature.Value.variant.HasValueSemantics
        [.construct 0 (.boolean true), .assign 0 0] := by
  refine ⟨?_, ?_, ?_, ?_⟩
  · exact not_hasValueSemantics_assign_self Geometry.variant_isLawful
      (by simp [Geometry.variant]) 0
  · exact not_hasValueSemantics_assign_self Token.variant_isLawful (by simp [Token.variant]) 0
  · exact not_hasValueSemantics_assign_self Error.Variant.variant_isLawful
      (by simp [Error.Variant.variant]) 0
  · exact not_hasValueSemantics_assign_self RuleSet.Feature.Value.variant_isLawful
      (by simp [RuleSet.Feature.Value.variant]) 0

end Airmap
