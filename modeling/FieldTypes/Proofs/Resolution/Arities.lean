import FieldTypes.Proofs.Resolution.Nodes

/-! Numbers of arguments in resolved types.  The arguments that a field type gives to a
class are counted when the field is resolved.  Those inside the types that a resolver was
made with are not: such a type takes the place of its variable as it is.  So a resolver
gives types with the right numbers of arguments to the extent that it was given such. -/

namespace FieldTypes

/-- A node with arguments has as many as its class has type parameters. -/
def Head.HasArity (registry : Registry) : Head → Prop
  | .applied raw count => registry.arity? raw = some count
  | .primitive _ | .plain _ | .array => True

namespace ResolvedType

variable {registry : Registry}

/-- Wherever a class has arguments in the type, it has as many as it has type parameters. -/
def HasArities (registry : Registry) (type : ResolvedType) : Prop :=
  ∀ raw arguments, .parameterized raw arguments ∈ type.nodes →
    registry.arity? raw = some arguments.length

theorem hasArities_iff {type : ResolvedType} :
    type.HasArities registry ↔ ∀ node ∈ type.nodes, node.head.HasArity registry := by
  constructor
  · intro right node member
    cases node with
    | parameterized raw arguments => exact right raw arguments member
    | primitive _ | plain _ | array _ => trivial
  · intro each raw arguments member
    exact each _ member

@[simp] theorem hasArities_plain (id : ClassId) : (plain id).HasArities registry := by
  simp [HasArities, nodes]

@[simp] theorem hasArities_array (component : ResolvedType) :
    (array component).HasArities registry ↔ component.HasArities registry := by
  simp [HasArities, nodes]

@[simp] theorem hasArities_parameterized (raw : ClassId) (arguments : List ResolvedType) :
    (parameterized raw arguments).HasArities registry ↔
      registry.arity? raw = some arguments.length ∧
        ∀ argument ∈ arguments, argument.HasArities registry := by
  simp only [hasArities_iff, nodes, allNodes_eq_flatMap, List.forall_mem_cons,
    List.forall_mem_flatMap]
  exact Iff.rfl

end ResolvedType

namespace Registry

variable {registry : Registry} {bound? : String → Option ResolvedType} {place : Place}
  {type : DeclaredType} {result : ResolvedType}

/-- A result has the right numbers of arguments if the types have that are bound to the
variables in it; there is nothing else in which it could be wrong. -/
theorem hasArities_of_substitute (passed : registry.substitute bound? place type = .ok result) :
    result.HasArities registry ↔
      ∀ name argument, .typeVariable name ∈ type.nodes → bound? name = some argument →
        argument.HasArities registry := by
  rw [ResolvedType.hasArities_iff, forall_nodes_of_substitute passed]
  constructor
  · intro each name argument member bound
    rw [ResolvedType.hasArities_iff]
    exact DeclaredType.forall_headsUnder_typeVariable.mp (each _ member) argument bound
  · intro each node member
    cases node with
    | primitive _ | plain _ | array _ => exact List.forall_mem_singleton.mpr trivial
    | parameterized raw arguments =>
        exact List.forall_mem_singleton.mpr (arity?_of_substitute passed member)
    | typeVariable name =>
        refine DeclaredType.forall_headsUnder_typeVariable.mpr fun argument bound => ?_
        exact ResolvedType.hasArities_iff.mp (each name argument member bound)
    | anyWildcard | extendsWildcard _ | superWildcard _ => exact List.forall_mem_nil _

/-- In a type that was made concrete everything has been counted. -/
theorem hasArities_of_concretize (concrete : registry.concretize type = .ok result) :
    result.HasArities registry :=
  (hasArities_of_substitute concrete).mpr fun _ _ _ bound => by cases bound

theorem WellFormed.hasArities_classType_iff (wellFormed : registry.WellFormed) {id : ClassId}
    {arguments : List ResolvedType} {resolver : Resolver}
    (made : registry.resolver id arguments = .ok resolver) :
    resolver.classType.HasArities registry ↔
      ∀ argument ∈ arguments, argument.HasArities registry := by
  rcases parts_of_resolver made with ⟨defined, -, rfl⟩
  rw [wellFormed.classType_eq made]
  split
  · have known : registry.arity? id = some resolver.arguments.length :=
      arity?_eq_some_iff.mpr ⟨resolver.definition, defined, resolver.arity.symm⟩
    rw [ResolvedType.hasArities_parameterized, and_iff_right known]
  · next notGeneric =>
      have noParameters : resolver.definition.parameters = [] := by
        simpa [ClassDefinition.isGeneric] using notGeneric
      have noArguments : resolver.arguments = [] := by
        rw [← List.length_eq_zero_iff, resolver.arity, noParameters, List.length_nil]
      simp [noArguments]

/-- The type of the class itself has the right numbers of arguments exactly if all types
have that the resolver was made with, and the type of a field exactly if those have that
stand in it for variables.  Types that were made concrete always have. -/
theorem Reachable.hasArities_iff_of_arguments (reachable : registry.Reachable) {id : ClassId}
    {arguments : List ResolvedType} {resolver : Resolver}
    (made : registry.resolver id arguments = .ok resolver) :
    (resolver.classType.HasArities registry ↔
      ∀ argument ∈ arguments, argument.HasArities registry) ∧
    (∀ field type, resolver.resolve field = .ok type →
      (type.HasArities registry ↔ ∀ name argument, .typeVariable name ∈ field.type.nodes →
        resolver.bound? name = some argument → argument.HasArities registry)) ∧
    ∀ declared argument, registry.concretize declared = .ok argument →
      argument.HasArities registry := by
  refine ⟨reachable.wellFormed.hasArities_classType_iff made, ?_,
    fun _ _ => hasArities_of_concretize⟩
  intro field type resolved
  rcases parts_of_resolver made with ⟨-, rfl, -⟩
  rw [Resolver.resolve] at resolved
  split at resolved
  · exact hasArities_of_substitute resolved
  · cases resolved

/-- The parameter of a child is bound to a list of strings. -/
theorem hasArities_iff_of_list :
    let strings : ResolvedType := .parameterized ⟨12⟩ [.plain ⟨1⟩]
    family.Reachable ∧ strings.HasArities family ∧
      ∃ resolver, family.resolver ⟨17⟩ [strings] = .ok resolver ∧
        (resolver.classType.HasArities family ↔
          ∀ argument ∈ [strings], argument.HasArities family) ∧
        (∀ field type, resolver.resolve field = .ok type →
          (type.HasArities family ↔ ∀ name argument, .typeVariable name ∈ field.type.nodes →
            resolver.bound? name = some argument → argument.HasArities family)) ∧
        ∀ declared argument, family.concretize declared = .ok argument →
          argument.HasArities family := by
  intro strings
  have lists : family.arity? ⟨12⟩ = some 1 := by decide +kernel
  have made : family.resolver ⟨17⟩ [strings] = .ok _ :=
    resolver_of_arity definition?_familyChild rfl
  exact ⟨family_reachable, by simp [strings, lists], _, made,
    Reachable.hasArities_iff_of_arguments family_reachable made⟩

/-! A child whose parameter is bound to an applied class that takes no arguments. -/

def misapplied : ResolvedType :=
  .parameterized ⟨1⟩ [.plain ⟨0⟩]

def childParent : FieldDefinition where
  registry := ⟨0⟩
  owner := ⟨17⟩
  ownerName := "family.Child"
  name := "parent"
  type := .array (.parameterized ⟨18⟩ [.typeVariable "T"])

theorem not_hasArities_misapplied : ¬ misapplied.HasArities family := by
  rw [misapplied, ResolvedType.hasArities_parameterized]
  intro right
  have none : family.arity? ⟨1⟩ = some 0 := by decide +kernel
  cases none.symm.trans right.1

/-- The resolver is made all the same, and the wrong number of arguments is in the type of
the class and in that of the field. -/
theorem not_hasArities_of_misapplied :
    family.Reachable ∧ ∃ resolver, family.resolver ⟨17⟩ [misapplied] = .ok resolver ∧
      childParent ∈ resolver.definition.fields ∧
      ¬ resolver.classType.HasArities family ∧
      ∃ type, resolver.resolve childParent = .ok type ∧ ¬ type.HasArities family := by
  let resolver : Resolver := ⟨family, definitionOf ⟨0⟩ ⟨17⟩ familyChild, [misapplied], rfl⟩
  have made : family.resolver ⟨17⟩ [misapplied] = .ok resolver :=
    resolver_of_arity definition?_familyChild rfl
  have resolved : resolver.resolve childParent =
      .ok (.array (.parameterized ⟨18⟩ [misapplied])) := by decide +kernel
  refine ⟨family_reachable, resolver, made, by decide, ?_, _, resolved, ?_⟩
  · intro right
    exact not_hasArities_misapplied
      ((family_reachable.wellFormed.hasArities_classType_iff made).mp right misapplied (by simp))
  · simp [not_hasArities_misapplied]

end Registry

end FieldTypes
