import FieldTypes.Proofs.CommandLine.ExitCode
import FieldTypes.Proofs.Expression.ResolvedText

/-! What is printed can be passed back.  The types in a report on a class are texts, and a
text that is given as a type argument stands for the type it was printed for. -/

namespace FieldTypes.CommandLine

/-- A text that a report has for a type, as that of the class itself or of a field. -/
def Prints (registry : Registry) (text : String) (type : ResolvedType) : Prop :=
  ∃ resolver : Resolver, resolver.registry = registry ∧
    (resolver.classType = type ∧ (ResolveReport.make resolver).display = text ∨
      ∃ field ∈ resolver.definition.fields, resolver.resolve field = .ok type ∧
        (ResolveReport.fieldLine resolver field).resolved? = some text)

variable {registry : Registry} {type : ResolvedType}

theorem Prints.text_eq {text : String} (prints : Prints registry text type) :
    text = registry.resolvedText type := by
  rcases prints with ⟨resolver, rfl, ⟨rfl, rfl⟩ | ⟨field, -, resolved, told⟩⟩
  · rfl
  · rw [ResolveReport.fieldLine, resolved] at told
    exact (Option.some.inj told).symm

/-- The text of a type stands for it, when the classes in it have proper names and proper
arguments and it is not nested too deep.  What a report prints for such a type is this text,
and as a type argument it is refused only if the type is primitive. -/
theorem denotes_and_typeArgument_of_writable (reachable : registry.Reachable)
    (proper : registry.HasProperNames) (writable : type.Writable registry)
    (shallow : type.depth ≤ Expression.maximalDepth) :
    registry.Denotes (registry.resolvedText type) type ∧
      ∀ text, text = registry.resolvedText type ∨ Prints registry text type →
        (typeArgument registry text = .ok type ↔ type.isPrimitive = false) := by
  have denotes := Expression.denotes_resolvedText proper reachable.wellFormed writable shallow
  refine ⟨denotes, fun text origin => ?_⟩
  have same : text = registry.resolvedText type := origin.elim id Prints.text_eq
  rw [same, typeArgument_eq_ok_iff, and_iff_right denotes]

/-! The type of the field of a child whose parameter is bound to maps. -/

def parentsOfMaps : ResolvedType :=
  .array (.parameterized ⟨18⟩
    [.parameterized ⟨15⟩ [.plain ⟨1⟩, .array (.array (.primitive .int))]])

theorem family_hasProperNames : Registry.family.HasProperNames :=
  Registry.hasProperNames_of_slots (by decide +kernel)

theorem denotes_and_typeArgument_of_family :
    Registry.family.Reachable ∧ Registry.family.HasProperNames ∧
      parentsOfMaps.Writable Registry.family ∧
      parentsOfMaps.depth ≤ Expression.maximalDepth ∧
      Registry.family.resolvedText parentsOfMaps =
        "family.Parent<java.util.Map<java.lang.String, int[][]>>[]" ∧
      Registry.family.Denotes (Registry.family.resolvedText parentsOfMaps) parentsOfMaps ∧
      ∀ text, text = Registry.family.resolvedText parentsOfMaps ∨
          Prints Registry.family text parentsOfMaps →
        (typeArgument Registry.family text = .ok parentsOfMaps ↔
          parentsOfMaps.isPrimitive = false) :=
  have writable : parentsOfMaps.Writable Registry.family := by decide +kernel
  have shallow : parentsOfMaps.depth ≤ Expression.maximalDepth := by decide
  ⟨Registry.family_reachable, family_hasProperNames, writable, shallow, by decide +kernel,
    denotes_and_typeArgument_of_writable Registry.family_reachable family_hasProperNames
      writable shallow⟩

end FieldTypes.CommandLine
