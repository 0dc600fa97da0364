import FieldTypes.Proofs.Registry.Reachable
import FieldTypes.Proofs.Sequences
import FieldTypes.Resolution.Resolver

/-! Resolution never gets stuck on a registered class.  What was checked when the
class was defined is all that substitution asks for; only wildcards, which may be
declared, are refused. -/

namespace FieldTypes

namespace Registry

variable {registry : Registry} {bound? : String → Option ResolvedType} {place : Place}

theorem collects_substituteAll (registry : Registry) (bound? : String → Option ResolvedType)
    (place : Place) :
    Collects (registry.substitute bound? place) (registry.substituteAll bound? place) where
  nil_eq := rfl
  cons_eq type rest := by
    rw [substituteAll]
    cases registry.substitute bound? place type with
    | error error => rfl
    | ok resolved => rfl

variable {parameters : List String} {type : DeclaredType}

/-- Substitution in a type that fits ends well or at a wildcard. -/
theorem substitute_of_fits (fits : type.Fits registry.arity? parameters)
    (bound : ∀ name ∈ parameters, ∃ argument, bound? name = some argument) :
    if type.containsWildcard = true then
      registry.substitute bound? place type = .error (.wildcard place)
    else ∃ resolved, registry.substitute bound? place type = .ok resolved := by
  induction type with
  | primitive kind => exact ⟨.primitive kind, rfl⟩
  | plain id => exact ⟨.plain id, rfl⟩
  | typeVariable name =>
      rcases bound name (by simpa using fits) with ⟨argument, found⟩
      refine ⟨argument, ?_⟩
      rw [substitute, found]
  | anyWildcard => exact rfl
  | extendsWildcard bound _ => exact rfl
  | superWildcard bound _ => exact rfl
  | array component induction =>
      have inner := induction (by simpa using fits)
      rw [DeclaredType.containsWildcard, substitute]
      split at inner
      · next wild => rw [if_pos wild, inner]; rfl
      · next tame =>
          rw [if_neg tame]
          rcases inner with ⟨resolved, passed⟩
          exact ⟨.array resolved, by rw [passed]; rfl⟩
  | parameterized raw arguments induction =>
      rcases (DeclaredType.fits_parameterized raw arguments).mp fits with
        ⟨arity, argumentsFit⟩
      rcases arity?_eq_some_iff.mp arity with ⟨definition, defined, length⟩
      have each := fun argument member =>
        induction argument member (argumentsFit argument member)
      rw [DeclaredType.containsWildcard, DeclaredType.anyContainsWildcard_eq_any,
        substitute, defined]
      dsimp only
      rw [if_pos length]
      split
      · next wild =>
          rcases List.any_eq_true.mp wild with ⟨argument, member, argumentWild⟩
          have failed := each argument member
          rw [if_pos argumentWild] at failed
          rw [(collects_substituteAll registry bound? place).eq_error
            (fun other otherMember => ?_) ⟨argument, member, failed⟩]
          · rfl
          · have outcome := each other otherMember
            split at outcome
            · exact .inl outcome
            · exact .inr outcome
      · next tame =>
          have passing : ∀ argument ∈ arguments,
              ∃ resolved, registry.substitute bound? place argument = .ok resolved := by
            intro argument member
            have outcome := each argument member
            rwa [if_neg fun wild => tame (List.any_eq_true.mpr ⟨argument, member, wild⟩)]
              at outcome
          rcases (collects_substituteAll registry bound? place).exists_eq_ok passing with
            ⟨resolved, passed⟩
          exact ⟨.parameterized raw resolved, by rw [passed]; rfl⟩

end Registry

namespace Resolver

/-- Every type parameter of the class of a resolver is bound. -/
theorem bound?_eq_some (resolver : Resolver) {name : String}
    (declared : name ∈ resolver.definition.parameters) :
    ∃ argument, resolver.bound? name = some argument := by
  have present : (resolver.definition.parameters.findIdx? (· == name)).isSome = true := by
    rw [List.findIdx?_isSome]
    exact List.any_eq_true.mpr ⟨name, declared, by simp⟩
  rcases Option.isSome_iff_exists.mp present with ⟨place, found⟩
  have within : place < resolver.arguments.length := by
    rw [resolver.arity]
    exact (List.findIdx?_eq_some_iff_findIdx_eq.mp found).1
  refine ⟨resolver.arguments[place], ?_⟩
  rw [bound?, ClassDefinition.parameterPlace?, found, Option.bind_some,
    List.getElem?_eq_getElem within]

/-- The resolver knows an own field as such and goes on to its type. -/
theorem resolve_eq_substitute (resolver : Resolver) {field : FieldDefinition}
    (holds : resolver.registry.Holds resolver.definition.id resolver.definition)
    (own : field ∈ resolver.definition.fields) :
    resolver.resolve field = resolver.registry.substitute resolver.bound?
      (.field resolver.definition.name field.name) field.type := by
  have declared : field.isDeclaredOn resolver.definition = true := by
    rw [FieldDefinition.isDeclaredOn, holds.fieldRegistry_eq field own,
      holds.registry_eq, holds.owner_eq field own, beq_self_eq_true, beq_self_eq_true]
    rfl
  rw [resolve, if_pos declared]

/-- An own field resolves, unless its type contains a wildcard. -/
theorem resolve_own_field (resolver : Resolver) {field : FieldDefinition}
    (holds : resolver.registry.Holds resolver.definition.id resolver.definition)
    (own : field ∈ resolver.definition.fields) :
    if field.type.containsWildcard = true then
      resolver.resolve field =
        .error (.wildcard (.field resolver.definition.name field.name))
    else ∃ type, resolver.resolve field = .ok type := by
  rw [resolver.resolve_eq_substitute holds own]
  exact Registry.substitute_of_fits (holds.types_fit field own) fun _ parameter =>
    resolver.bound?_eq_some parameter

end Resolver

theorem Registry.resolver_eq_ok_iff {registry : Registry} {id : ClassId}
    {definition : ClassDefinition} {arguments : List ResolvedType} {resolver : Resolver}
    (defined : registry.definition? id = some definition) :
    registry.resolver id arguments = .ok resolver ↔
      resolver.registry = registry ∧ resolver.definition = definition ∧
        resolver.arguments = arguments ∧ arguments.length = definition.parameters.length := by
  rw [Registry.resolver, defined]
  dsimp only
  split
  · next arity =>
      rw [Except.ok.injEq]
      constructor
      · intro equal
        subst equal
        exact ⟨rfl, rfl, rfl, arity⟩
      · intro parts
        rcases parts with ⟨rfl, rfl, rfl, -⟩
        rfl
  · next different =>
      exact iff_of_false (by simp) fun all => different all.2.2.2

theorem Registry.resolver_of_arity {registry : Registry} {id : ClassId}
    {definition : ClassDefinition} {arguments : List ResolvedType}
    (defined : registry.definition? id = some definition)
    (arity : arguments.length = definition.parameters.length) :
    registry.resolver id arguments = .ok ⟨registry, definition, arguments, arity⟩ :=
  (resolver_eq_ok_iff defined).mpr ⟨rfl, rfl, rfl, arity⟩

theorem Registry.parts_of_resolver {registry : Registry} {id : ClassId}
    {arguments : List ResolvedType} {resolver : Resolver}
    (made : registry.resolver id arguments = .ok resolver) :
    registry.definition? id = some resolver.definition ∧ resolver.registry = registry ∧
      resolver.arguments = arguments := by
  cases defined : registry.definition? id with
  | none =>
      rw [Registry.resolver, defined] at made
      cases made
  | some definition =>
      rcases (resolver_eq_ok_iff defined).mp made with ⟨sameRegistry, rfl, sameArguments, -⟩
      exact ⟨rfl, sameRegistry, sameArguments⟩

/-- The type of the class has the id and the arguments that the resolver was made with. -/
theorem Registry.WellFormed.classType_eq {registry : Registry}
    (wellFormed : registry.WellFormed) {id : ClassId} {arguments : List ResolvedType}
    {resolver : Resolver} (made : registry.resolver id arguments = .ok resolver) :
    resolver.classType =
      if resolver.definition.isGeneric then .parameterized id arguments else .plain id := by
  rcases parts_of_resolver made with ⟨defined, -, rfl⟩
  rw [Resolver.classType, (wellFormed.holds defined).id_eq]

theorem Resolver.mem_of_bound? {resolver : Resolver} {name : String} {argument : ResolvedType}
    (bound : resolver.bound? name = some argument) : argument ∈ resolver.arguments := by
  rcases Option.bind_eq_some_iff.mp bound with ⟨place, -, found⟩
  exact List.mem_of_getElem? found

/-- A class that was once defined has a resolver for each list of arguments of the
right length, however far the registry has grown since; and its fields resolve,
except that a wildcard is refused with the names of the class and the field. -/
theorem Registry.Reachable.resolves_own_fields {registry : Registry}
    (reachable : registry.Reachable) {id : ClassId} {definition : ClassDefinition}
    (defined : registry.definition? id = some definition) (requests : List Change)
    (arguments : List ResolvedType) :
    ((∃ resolver, (requests.foldl Registry.change registry).resolver id arguments = .ok resolver) ↔
        arguments.length = definition.parameters.length) ∧
      ∀ resolver, (requests.foldl Registry.change registry).resolver id arguments = .ok resolver →
        ∀ field ∈ definition.fields,
          ((∃ type, resolver.resolve field = .ok type) ↔
            field.type.containsWildcard = false) ∧
          ∀ error, resolver.resolve field = .error error ↔
            field.type.containsWildcard = true ∧
              error = .wildcard (.field definition.name field.name) := by
  rcases reachable.wellFormed.foldl_change requests with ⟨wellFormed, growth⟩
  have still := growth.definition?_eq defined
  constructor
  · constructor
    · intro parts
      rcases parts with ⟨resolver, made⟩
      exact ((resolver_eq_ok_iff still).mp made).2.2.2
    · intro arity
      exact ⟨⟨requests.foldl Registry.change registry, definition, arguments, arity⟩,
        (resolver_eq_ok_iff still).mpr ⟨rfl, rfl, rfl, arity⟩⟩
  · intro resolver made field member
    rcases (resolver_eq_ok_iff still).mp made with ⟨sameRegistry, rfl, -, -⟩
    have holds := wellFormed.holds still
    have outcome := resolver.resolve_own_field
      (by rw [sameRegistry, holds.id_eq]; exact holds) member
    split at outcome
    · next wild =>
        rw [outcome, wild]
        refine ⟨iff_of_false (by simp) (by simp), fun error => ?_⟩
        rw [Except.error.injEq, and_iff_right rfl, eq_comm]
    · next tame =>
        rcases outcome with ⟨type, resolved⟩
        rw [resolved]
        exact ⟨iff_of_true ⟨type, rfl⟩ ((Bool.not_eq_true _).mp tame),
          fun error => iff_of_false (by simp) fun both => tame both.1⟩

/-- In a grown family, the children of a parent are refused for their wildcard. -/
theorem Registry.resolves_own_fields_of_family :
    family.Reachable ∧
      family.definition? ⟨18⟩ = some (definitionOf ⟨0⟩ ⟨18⟩ familyParent) ∧
      ((∃ resolver, ([.intern "family.Pet"].foldl change family).resolver ⟨18⟩
          [.primitive .int] = .ok resolver) ↔
        [ResolvedType.primitive .int].length = familyParent.parameters.length) ∧
      ∀ resolver, ([.intern "family.Pet"].foldl change family).resolver ⟨18⟩
          [.primitive .int] = .ok resolver →
        ∀ field ∈ (definitionOf ⟨0⟩ ⟨18⟩ familyParent).fields,
          ((∃ type, resolver.resolve field = .ok type) ↔
            field.type.containsWildcard = false) ∧
          ∀ error, resolver.resolve field = .error error ↔
            field.type.containsWildcard = true ∧
              error = .wildcard (.field "family.Parent" field.name) :=
  have defined : family.definition? ⟨18⟩ = some (definitionOf ⟨0⟩ ⟨18⟩ familyParent) := by
    decide +kernel
  ⟨family_reachable, defined,
    Reachable.resolves_own_fields family_reachable defined [.intern "family.Pet"]
      [.primitive .int]⟩

end FieldTypes
