import FieldTypes.Proofs.Resolution.Dependence

/-! The text of a resolved type.  It is the text of the declared type with the texts of the
type arguments in the place of the type variables: substitution in a type and substitution in
its text come to the same. -/

namespace FieldTypes

/-- The text of the type that is bound to a variable. -/
def Resolver.boundText (resolver : Resolver) (name : String) : String :=
  ((resolver.bound? name).map resolver.registry.resolvedText).getD name

theorem Resolver.boundText_of_bound? {resolver : Resolver} {name : String}
    {argument : ResolvedType} (bound : resolver.bound? name = some argument) :
    resolver.boundText name = resolver.registry.resolvedText argument := by
  rw [boundText, bound, Option.map_some, Option.getD_some]

namespace Registry

variable {registry : Registry} {bound? : String → Option ResolvedType} {place : Place}
  {type : DeclaredType} {result : ResolvedType}

theorem textUnder_of_substitute {nameOf : ClassId → String} {variableText : String → String}
    (texts : ∀ name argument, bound? name = some argument →
      variableText name = argument.textUnder nameOf)
    (passed : registry.substitute bound? place type = .ok result) :
    result.textUnder nameOf = type.textUnder nameOf variableText := by
  induction type generalizing result with
  | primitive _ | plain _ =>
      cases passed
      rfl
  | typeVariable name =>
      exact (texts name result (substitute_typeVariable_eq_ok_iff.mp passed)).symm
  | array component induction =>
      rcases substitute_array_eq_ok_iff.mp passed with ⟨inner, found, rfl⟩
      rw [ResolvedType.textUnder, DeclaredType.textUnder, induction found]
  | parameterized raw arguments induction =>
      rcases substitute_parameterized_eq_ok_iff.mp passed with ⟨-, inner, each, rfl⟩
      have same : arguments.map (·.textUnder nameOf variableText) =
          inner.map (·.textUnder nameOf) := by
        apply map_eq_map_iff_forall₂.mpr
        apply forall₂_imp_of_mem _ each
        intro argument member argumentResult found
        exact (induction argument member found).symm
      rw [ResolvedType.textUnder, ResolvedType.textsUnder_eq_map, DeclaredType.textUnder,
        DeclaredType.textsUnder_eq_map, same]
  | anyWildcard | extendsWildcard _ _ | superWildcard _ _ => cases passed

theorem resolvedText_of_concretize (concrete : registry.concretize type = .ok result) :
    registry.resolvedText result = registry.declaredText type :=
  textUnder_of_substitute (fun _ _ bound => by cases bound) concrete

/-- A resolved field has the text of its declared type, in which the text of an argument takes
the place of the type parameter that stands where it does among the parameters.  A type that
was made concrete has the text that it had before. -/
theorem Reachable.resolvedText_of_resolve (reachable : registry.Reachable) {id : ClassId}
    {definition : ClassDefinition} (defined : registry.definition? id = some definition)
    {arguments : List ResolvedType} (arity : arguments.length = definition.parameters.length) :
    (∃ resolver, registry.resolver id arguments = .ok resolver ∧
      (∀ (index : Nat) name argument, definition.parameters[index]? = some name →
        arguments[index]? = some argument →
          resolver.boundText name = registry.resolvedText argument) ∧
      ∀ field type, resolver.resolve field = .ok type →
        registry.resolvedText type =
          field.type.textUnder registry.displayName resolver.boundText) ∧
    ∀ declared type, registry.concretize declared = .ok type →
      registry.resolvedText type = registry.declaredText declared := by
  have holds := reachable.wellFormed.holds defined
  let resolver : Resolver := ⟨registry, definition, arguments, arity⟩
  refine ⟨⟨resolver, resolver_of_arity defined arity, ?_, ?_⟩,
    fun _ _ => resolvedText_of_concretize⟩
  · intro index name argument parameter found
    apply Resolver.boundText_of_bound?
    rw [resolver.bound?_eq_getElem? holds.parameters_nodup parameter]
    exact found
  · intro field type resolved
    rw [Resolver.resolve] at resolved
    split at resolved
    · apply textUnder_of_substitute _ resolved
      intro name argument bound
      exact Resolver.boundText_of_bound? bound
    · cases resolved

/-- A list takes the place of the second parameter, which stands in front of the first. -/
theorem resolvedText_of_resolve_turned :
    let arguments : List ResolvedType := [.plain ⟨0⟩, .parameterized ⟨12⟩ [.plain ⟨1⟩]]
    pairs.Reachable ∧ pairs.definition? ⟨18⟩ = some (definitionOf ⟨0⟩ ⟨18⟩ swap) ∧
      arguments.length = swap.parameters.length ∧
      ((pairs.resolver ⟨18⟩ arguments).bind (·.resolve turned)).toOption.map
          pairs.resolvedText =
        some "pair.Pair<java.util.List<java.lang.String>[], java.lang.Object>[]" ∧
      (∃ resolver, pairs.resolver ⟨18⟩ arguments = .ok resolver ∧
        (∀ (index : Nat) name argument, swap.parameters[index]? = some name →
          arguments[index]? = some argument →
            resolver.boundText name = pairs.resolvedText argument) ∧
        ∀ field type, resolver.resolve field = .ok type →
          pairs.resolvedText type =
            field.type.textUnder pairs.displayName resolver.boundText) ∧
      ∀ declared type, pairs.concretize declared = .ok type →
        pairs.resolvedText type = pairs.declaredText declared := by
  intro arguments
  have reachable : pairs.Reachable := .change _ (.withBuiltIns _)
  have defined : pairs.definition? ⟨18⟩ = some (definitionOf ⟨0⟩ ⟨18⟩ swap) := by
    decide +kernel
  have arity : arguments.length = swap.parameters.length := rfl
  exact ⟨reachable, defined, arity, by decide +kernel,
    Reachable.resolvedText_of_resolve reachable defined arity⟩

end Registry

end FieldTypes
