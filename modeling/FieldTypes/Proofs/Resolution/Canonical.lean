import FieldTypes.Proofs.Expression.Origins
import FieldTypes.Proofs.Expression.RoundTrip
import FieldTypes.Proofs.Registry.Growth
import FieldTypes.Proofs.Resolution.Nodes

/-! One form for each type.  A class without type parameters is given as such by its own
resolver, never with an empty list of arguments, and the same form is expected wherever it
stands in a type, for two types to be the same key exactly if they are the same type.
Resolution keeps to this form except where a declared type departs from it, which a text
never does. -/

namespace FieldTypes

namespace ResolvedType

/-- A class that is defined, or a class with arguments that is what its own resolver gives. -/
def NodeIsCanonical (registry : Registry) : ResolvedType → Prop
  | .plain id => registry.isDefined id = true
  | .parameterized raw arguments =>
      ∃ resolver, registry.resolver raw arguments = .ok resolver ∧
        resolver.classType = .parameterized raw arguments
  | .primitive _ | .array _ => True

def Canonical (registry : Registry) (type : ResolvedType) : Prop :=
  ∀ node ∈ type.nodes, node.NodeIsCanonical registry

end ResolvedType

/-- A class that is defined, with as many arguments as parameters and not with none. -/
def Head.IsCanonical (registry : Registry) : Head → Prop
  | .plain id => registry.isDefined id = true
  | .applied raw count => registry.arity? raw = some count ∧ count ≠ 0
  | .primitive _ | .array => True

instance (registry : Registry) : DecidablePred (Head.IsCanonical registry)
  | .plain id => inferInstanceAs (Decidable (registry.isDefined id = true))
  | .applied raw count =>
      inferInstanceAs (Decidable (registry.arity? raw = some count ∧ count ≠ 0))
  | .primitive _ | .array => isTrue trivial

namespace Registry

variable {registry : Registry} {bound? : String → Option ResolvedType} {place : Place}
  {type : DeclaredType} {result : ResolvedType}

theorem WellFormed.nodeIsCanonical_iff (wellFormed : registry.WellFormed)
    {node : ResolvedType} :
    node.NodeIsCanonical registry ↔ node.head.IsCanonical registry := by
  cases node with
  | primitive _ | plain _ | array _ => exact Iff.rfl
  | parameterized raw arguments =>
      rw [ResolvedType.NodeIsCanonical, ResolvedType.head, Head.IsCanonical, arity?_eq_some_iff]
      constructor
      · rintro ⟨resolver, made, same⟩
        rcases parts_of_resolver made with ⟨defined, -, rfl⟩
        refine ⟨⟨resolver.definition, defined, resolver.arity.symm⟩, ?_⟩
        rw [Resolver.classType] at same
        split at same
        · next generic =>
            rw [resolver.arity]
            simpa [ClassDefinition.isGeneric] using generic
        · cases same
      · rintro ⟨⟨definition, defined, length⟩, notNone⟩
        refine ⟨⟨registry, definition, arguments, length.symm⟩,
          resolver_of_arity defined length.symm, ?_⟩
        have generic : definition.isGeneric = true := by
          rw [← length] at notNone
          simpa [ClassDefinition.isGeneric] using notNone
        rw [Resolver.classType, if_pos generic, (wellFormed.holds defined).id_eq]

theorem WellFormed.canonical_iff (wellFormed : registry.WellFormed) :
    result.Canonical registry ↔ ∀ node ∈ result.nodes, node.head.IsCanonical registry :=
  forall₂_congr fun _ _ => wellFormed.nodeIsCanonical_iff

/-- A node that fits leaves canonical nodes, unless it is a class with an empty list of
arguments. -/
theorem forall_headsUnder_isCanonical_iff {parameters : List String} {node : DeclaredType}
    (fits : node.NodeFits registry.arity? parameters)
    (bound : ∀ name argument, bound? name = some argument →
      ∀ head ∈ argument.heads, head.IsCanonical registry) :
    (∀ head ∈ node.headsUnder bound?, head.IsCanonical registry) ↔
      ∀ raw, .parameterized raw [] ≠ node := by
  cases node with
  | primitive _ | array _ =>
      exact iff_of_true (List.forall_mem_singleton.mpr trivial) fun raw same => by cases same
  | anyWildcard | extendsWildcard _ | superWildcard _ =>
      exact iff_of_true (List.forall_mem_nil _) fun raw same => by cases same
  | plain id =>
      have defined : registry.isDefined id = true := by
        have known : (registry.arity? id).isSome = true := fits
        rwa [arity?, Option.isSome_map] at known
      exact iff_of_true (List.forall_mem_singleton.mpr defined) fun raw same => by cases same
  | parameterized raw arguments =>
      have counted : registry.arity? raw = some arguments.length := fits
      rw [DeclaredType.headsUnder, List.forall_mem_singleton, Head.IsCanonical,
        and_iff_right counted]
      simp [eq_comm]
  | typeVariable name =>
      refine iff_of_true ?_ fun raw same => by cases same
      refine DeclaredType.forall_headsUnder_typeVariable.mpr fun argument found => ?_
      exact ResolvedType.forall_mem_heads_iff.mp (bound name argument found)

/-- With canonical types for the variables, all depends on the declared type. -/
theorem WellFormed.canonical_of_substitute_iff (wellFormed : registry.WellFormed)
    {parameters : List String} (fits : type.Fits registry.arity? parameters)
    (bound : ∀ name argument, bound? name = some argument → argument.Canonical registry)
    (passed : registry.substitute bound? place type = .ok result) :
    result.Canonical registry ↔ ∀ raw, .parameterized raw [] ∉ type.nodes := by
  have boundHeads : ∀ name argument, bound? name = some argument →
      ∀ head ∈ argument.heads, head.IsCanonical registry := by
    intro name argument found
    rw [ResolvedType.forall_mem_heads_iff, ← wellFormed.canonical_iff]
    exact bound name argument found
  rw [wellFormed.canonical_iff, forall_nodes_of_substitute passed]
  constructor
  · intro each raw member
    exact (forall_headsUnder_isCanonical_iff (fits _ member) boundHeads).mp
      (each _ member) raw rfl
  · intro none node member
    refine (forall_headsUnder_isCanonical_iff (fits node member) boundHeads).mpr ?_
    rintro raw rfl
    exact none raw member

/-- A class with canonical arguments is canonical itself. -/
theorem WellFormed.canonical_classType (wellFormed : registry.WellFormed) {id : ClassId}
    {arguments : List ResolvedType} {resolver : Resolver}
    (made : registry.resolver id arguments = .ok resolver)
    (canonical : ∀ argument ∈ arguments, argument.Canonical registry) :
    resolver.classType.Canonical registry := by
  have classType := wellFormed.classType_eq made
  split at classType
  · rw [classType]
    intro node member
    rw [ResolvedType.nodes, List.mem_cons, ResolvedType.allNodes_eq_flatMap,
      List.mem_flatMap] at member
    rcases member with rfl | ⟨argument, given, below⟩
    · exact ⟨resolver, made, classType⟩
    · exact canonical argument given node below
  · rw [classType]
    exact List.forall_mem_singleton.mpr
      (Option.isSome_iff_exists.mpr ⟨_, (parts_of_resolver made).1⟩)

end Registry

/-! ## Types that were read -/

namespace Expression

theorem Derives.ne_parameterized_nil {names : String → Meaning → Prop} {phrase : Phrase}
    {text rest : List Char} (derived : Derives names phrase text rest) :
    ∀ node ∈ phrase.nodes, ∀ raw, node ≠ .parameterized raw [] := by
  have bare : ∀ {name meaning}, names name meaning → ∀ raw,
      meaning.bareType ≠ .parameterized raw [] := by
    intro name meaning _ raw same
    cases meaning <;> cases same
  refine derived.forall_nodes bare (fun _ present raw same => ?_) (fun _ _ => nofun)
    (fun _ => nofun) (fun _ _ => nofun) fun _ _ => nofun
  exact present (DeclaredType.parameterized.inj same).2

theorem parameterized_nil_not_mem_nodes {registry : Registry} {scope : Scope} {text : String}
    {type : DeclaredType} (read : parse registry scope text = .ok type) (raw : ClassId) :
    .parameterized raw [] ∉ type.nodes := by
  rcases parse_eq_ok_iff.mp read with ⟨⟨rest, derived, -⟩, -⟩
  intro member
  exact derived.ne_parameterized_nil _ member raw rfl

end Expression

/-! ## Resolved fields -/

namespace Registry

variable {registry : Registry} {id : ClassId} {definition : ClassDefinition}
  {arguments : List ResolvedType}

/-- With canonical arguments, the type of the class is canonical, and the type of a field is
canonical exactly if its declared type applies no class to an empty list of arguments.  That
is so for every declared type that was read from a text, by whichever registry and scope. -/
theorem Reachable.canonical_resolved (reachable : registry.Reachable)
    (defined : registry.definition? id = some definition)
    (arity : arguments.length = definition.parameters.length)
    (canonical : ∀ argument ∈ arguments, argument.Canonical registry) :
    ∃ resolver, registry.resolver id arguments = .ok resolver ∧
      resolver.classType.Canonical registry ∧
      ∀ field, registry.Meets field → ∀ type, resolver.resolve field = .ok type →
        (type.Canonical registry ↔ ∀ raw, .parameterized raw [] ∉ field.type.nodes) ∧
        ((∃ reader scope text, Expression.parse reader scope text = .ok field.type) →
          type.Canonical registry) := by
  have wellFormed := reachable.wellFormed
  have made := resolver_of_arity defined arity
  refine ⟨_, made, wellFormed.canonical_classType made canonical, ?_⟩
  intro field meets type resolved
  rw [Resolver.resolve] at resolved
  split at resolved
  · next declared =>
      have own := meets.mem_of_isDeclaredOn wellFormed defined declared
      have all := wellFormed.canonical_of_substitute_iff
        ((wellFormed.holds defined).types_fit field own)
        (fun name argument bound => canonical argument (Resolver.mem_of_bound? bound)) resolved
      refine ⟨all, ?_⟩
      rintro ⟨reader, scope, text, read⟩
      exact all.mpr (Expression.parameterized_nil_not_mem_nodes read)
  · cases resolved

/-- A child whose parameter is bound to a list of strings. -/
theorem canonical_resolved_of_family :
    let strings : ResolvedType := .parameterized ⟨12⟩ [.plain ⟨1⟩]
    family.Reachable ∧
      family.definition? ⟨17⟩ = some (definitionOf ⟨0⟩ ⟨17⟩ familyChild) ∧
      [strings].length = familyChild.parameters.length ∧
      (∀ argument ∈ [strings], argument.Canonical family) ∧
      (∀ field ∈ (definitionOf ⟨0⟩ ⟨17⟩ familyChild).fields, family.Meets field) ∧
      ∃ resolver, family.resolver ⟨17⟩ [strings] = .ok resolver ∧
        resolver.classType.Canonical family ∧
        ∀ field, family.Meets field → ∀ type, resolver.resolve field = .ok type →
          (type.Canonical family ↔ ∀ raw, .parameterized raw [] ∉ field.type.nodes) ∧
          ((∃ reader scope text, Expression.parse reader scope text = .ok field.type) →
            type.Canonical family) := by
  intro strings
  have canonical : ∀ argument ∈ [strings], argument.Canonical family := by
    rw [List.forall_mem_singleton, family_reachable.wellFormed.canonical_iff]
    decide +kernel
  exact ⟨family_reachable, definition?_familyChild, rfl, canonical, family_meets.1,
    Reachable.canonical_resolved family_reachable definition?_familyChild rfl canonical⟩

/-! A box with strings in it, declared as applied to an empty list of arguments. -/

def boxContent : FieldDeclaration :=
  ⟨"content", .parameterized ⟨1⟩ []⟩

def boxed : Registry :=
  (withBuiltIns ⟨0⟩).change (.define [⟨"box.Box", [], [boxContent]⟩])

/-- The box is accepted, and the type of its field is not what the resolver of strings gives. -/
theorem not_canonical_of_boxContent :
    boxed.Reachable ∧
      ∃ resolver, boxed.resolver ⟨17⟩ [] = .ok resolver ∧
        ∃ field ∈ resolver.definition.fields,
          ∃ type, resolver.resolve field = .ok type ∧ ¬ type.Canonical boxed := by
  have reachable : boxed.Reachable := .change _ (.withBuiltIns _)
  let definition := definitionOf ⟨0⟩ ⟨17⟩ ⟨"box.Box", [], [boxContent]⟩
  have defined : boxed.definition? ⟨17⟩ = some definition := by decide +kernel
  let resolver : Resolver := ⟨boxed, definition, [], rfl⟩
  have resolved : ∃ field ∈ definition.fields,
      resolver.resolve field = .ok (.parameterized ⟨1⟩ []) := by decide +kernel
  rcases resolved with ⟨field, member, resolved⟩
  refine ⟨reachable, resolver, resolver_of_arity defined rfl, field, member, _, resolved, ?_⟩
  rw [reachable.wellFormed.canonical_iff]
  decide +kernel

end Registry

end FieldTypes
