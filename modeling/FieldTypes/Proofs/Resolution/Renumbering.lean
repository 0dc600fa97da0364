import FieldTypes.Proofs.Resolution.Outcome
import FieldTypes.Proofs.Expression.Renumbering

/-! Resolution in two registries that mirror each other.  The same texts stand for
type arguments, and a class resolves its fields to types of the same text or
refuses them for the same reason. -/

namespace FieldTypes

variable {change : ClassId → ClassId} {left right : Registry} {id : ClassId}

namespace Registry

variable {bound? other? : String → Option ResolvedType} {place : Place}

theorem substitute_renumber (classes : ∀ id, right.arity? (change id) = left.arity? id)
    (bindings : ∀ name result, bound? name = some result →
      other? name = some (result.renumber change))
    {type : DeclaredType} {result : ResolvedType}
    (passed : left.substitute bound? place type = .ok result) :
    right.substitute other? place (type.renumber change) = .ok (result.renumber change) := by
  induction type generalizing result with
  | primitive kind =>
      cases passed
      rfl
  | plain id =>
      cases passed
      rfl
  | typeVariable name =>
      rw [substitute_typeVariable_eq_ok_iff] at passed
      rw [DeclaredType.renumber, substitute_typeVariable_eq_ok_iff]
      exact bindings name result passed
  | array component induction =>
      rw [substitute_array_eq_ok_iff] at passed
      rcases passed with ⟨inner, found, rfl⟩
      rw [DeclaredType.renumber, substitute_array_eq_ok_iff]
      exact ⟨inner.renumber change, induction found, rfl⟩
  | parameterized raw arguments induction =>
      rw [substitute_parameterized_eq_ok_iff] at passed
      rcases passed with ⟨arity, inner, each, rfl⟩
      rw [DeclaredType.renumber, DeclaredType.renumberAll_eq_map,
        substitute_parameterized_eq_ok_iff, classes, List.length_map]
      refine ⟨arity, inner.map (·.renumber change), ?_, ?_⟩
      · rw [List.forall₂_map_left_iff, List.forall₂_map_right_iff]
        exact forall₂_imp_of_mem (fun argument member _ => induction argument member) each
      · rw [ResolvedType.renumber, ResolvedType.renumberAll_eq_map]
  | anyWildcard | extendsWildcard _ _ | superWildcard _ _ => cases passed

/-- A text that can be a type argument, and the type that it stands for. -/
def Denotes (registry : Registry) (text : String) (type : ResolvedType) : Prop :=
  ∃ declared, Expression.parse registry .empty text = .ok declared ∧
    registry.concretize declared = .ok type

theorem Denotes.unique {registry : Registry} {text : String} {type other : ResolvedType}
    (first : registry.Denotes text type) (second : registry.Denotes text other) :
    type = other := by
  rcases first with ⟨declared, read, concrete⟩
  rcases second with ⟨otherDeclared, otherRead, otherConcrete⟩
  rw [read] at otherRead
  cases otherRead
  rw [concrete] at otherConcrete
  exact Except.ok.inj otherConcrete

theorem Denotes.renumber (mirrors : Mirrors change left right) {text : String}
    {type : ResolvedType} (denotes : left.Denotes text type) :
    right.Denotes text (type.renumber change) := by
  rcases denotes with ⟨declared, read, concrete⟩
  have otherRead := Expression.parse_renumber mirrors.toSameNames read
  rw [Expression.renumber_empty] at otherRead
  refine ⟨declared.renumber change, otherRead, ?_⟩
  rw [concretize] at concrete ⊢
  apply substitute_renumber mirrors.arity?_eq _ concrete
  intro name result bound
  cases bound

end Registry

/-! ## Resolvers -/

namespace Resolver

/-- What a field resolves to, or why it does not, as a text. -/
def outcomeText (resolver : Resolver) (field : FieldDefinition) : Except String String :=
  match resolver.resolve field with
  | .error error => .error error.message
  | .ok type => .ok (resolver.registry.resolvedText type)

/-- The resolver of the same class in a registry of other ids. -/
def renumber (change : ClassId → ClassId) (right : Registry) (resolver : Resolver) :
    Resolver where
  registry := right
  definition := resolver.definition.renumber change right.identity
  arguments := resolver.arguments.map (·.renumber change)
  arity := by
    rw [List.length_map]
    exact resolver.arity

theorem bound?_renumber (resolver : Resolver) (name : String) :
    (resolver.renumber change right).bound? name =
      (resolver.bound? name).map (·.renumber change) := by
  have place : (resolver.renumber change right).definition.parameterPlace? name =
    resolver.definition.parameterPlace? name := rfl
  rw [bound?, place, bound?, renumber]
  simp only [List.getElem?_map, Option.map_bind, Function.comp_def]

/-- An own field has the same outcome in both registries. -/
theorem outcomeText_renumber (resolver : Resolver)
    (mirrors : Registry.Mirrors change resolver.registry right)
    (holds : resolver.registry.Holds resolver.definition.id resolver.definition)
    (otherHolds : right.Holds (change resolver.definition.id)
      (resolver.definition.renumber change right.identity))
    {field : FieldDefinition} (own : field ∈ resolver.definition.fields) :
    (resolver.renumber change right).outcomeText (field.renumber change right.identity) =
      resolver.outcomeText field := by
  have otherOwn : field.renumber change right.identity ∈
      (resolver.renumber change right).definition.fields := List.mem_map_of_mem own
  have outcome := resolver.resolve_own_field holds own
  -- An own field either resolves or has a wildcard, and the refusal names no ids.
  rw [outcomeText, outcomeText]
  split at outcome
  · next wild =>
      have otherWild : (field.renumber change right.identity).type.containsWildcard = true :=
        (field.type.containsWildcard_renumber change).trans wild
      have otherOutcome := (resolver.renumber change right).resolve_own_field otherHolds otherOwn
      rw [if_pos otherWild] at otherOutcome
      rw [outcome, otherOutcome]
      rfl
  · rcases outcome with ⟨type, resolved⟩
    have otherResolved : (resolver.renumber change right).resolve
        (field.renumber change right.identity) = .ok (type.renumber change) := by
      rw [resolver.resolve_eq_substitute holds own] at resolved
      rw [resolve_eq_substitute _ otherHolds otherOwn]
      apply Registry.substitute_renumber mirrors.arity?_eq _ resolved
      intro name result bound
      rw [bound?_renumber, bound, Option.map_some]
    rw [resolved, otherResolved]
    exact congrArg Except.ok (mirrors.resolvedText_renumber type)

end Resolver

namespace Registry

/-- The outcome of every field of a class with these arguments, in the order of the
fields, or why there is no resolver. -/
def resolutionTexts (registry : Registry) (id : ClassId) (arguments : List ResolvedType) :
    Except String (List (Except String String)) :=
  match registry.resolver id arguments with
  | .error error => .error error.message
  | .ok resolver => .ok (resolver.definition.fields.map resolver.outcomeText)

theorem resolutionTexts_renumber (mirrors : Mirrors change left right)
    (leftFormed : left.WellFormed) (rightFormed : right.WellFormed)
    {definition : ClassDefinition} (defined : left.definition? id = some definition)
    (arguments : List ResolvedType) :
    right.resolutionTexts (change id) (arguments.map (·.renumber change)) =
      left.resolutionTexts id arguments := by
  have otherDefined := mirrors.definition?_eq id
  rw [defined, Option.map_some] at otherDefined
  have holds := leftFormed.holds defined
  have otherHolds := rightFormed.holds otherDefined
  have sameId := holds.id_eq
  subst sameId
  rw [resolutionTexts, resolutionTexts]
  by_cases arity : arguments.length = definition.parameters.length
  · let resolver : Resolver := ⟨left, definition, arguments, arity⟩
    have made : left.resolver definition.id arguments = .ok resolver :=
      (resolver_eq_ok_iff defined).mpr ⟨rfl, rfl, rfl, arity⟩
    have otherMade : right.resolver (change definition.id) (arguments.map (·.renumber change)) =
        .ok (resolver.renumber change right) :=
      (resolver_eq_ok_iff otherDefined).mpr ⟨rfl, rfl, rfl, by rw [List.length_map]; exact arity⟩
    have fields : (resolver.renumber change right).definition.fields =
        definition.fields.map (·.renumber change right.identity) := rfl
    rw [made, otherMade]
    dsimp only
    rw [fields, List.map_map]
    refine congrArg Except.ok (List.map_congr_left fun field own => ?_)
    exact resolver.outcomeText_renumber mirrors holds otherHolds own
  · rw [resolver, resolver, defined, otherDefined]
    dsimp only
    rw [dif_neg arity, dif_neg (by rwa [List.length_map]), List.length_map]
    rfl

end Registry

end FieldTypes
