import FieldTypes.Proofs.Expression.ResolvedText

/-! What stands in the way of a type.  A node of a declared type is an obstacle by itself,
whatever is below it.  Substitution stops at the first obstacle of a walk through all nodes,
from the outside in, although it never looks below an obstacle; where there is none, the
result is the declared type again, node by node. -/

namespace FieldTypes

namespace DeclaredType

/-- What is wrong with one node: a wildcard, a variable that is not bound, or a class with
arguments that is not defined or has another number of type parameters. -/
def obstacle? (registry : Registry) (bound? : String → Option ResolvedType) (place : Place) :
    DeclaredType → Option ResolutionError
  | .primitive _ | .plain _ | .array _ => none
  | .parameterized raw arguments =>
      match registry.definition? raw with
      | none => some (.unknownClass raw)
      | some definition =>
          if definition.parameters.length = arguments.length then none
          else some (.arityMismatch definition.name definition.parameters.length
            arguments.length)
  | .typeVariable name => if (bound? name).isSome then none else some (.unboundVariable name)
  | .anyWildcard | .extendsWildcard _ | .superWildcard _ => some (.wildcard place)

/-- The first obstacle of a walk through the type. -/
def firstObstacle? (registry : Registry) (bound? : String → Option ResolvedType)
    (place : Place) (type : DeclaredType) : Option ResolutionError :=
  type.nodes.findSome? (obstacle? registry bound? place)

theorem findSome?_allNodes {α : Type} (test? : DeclaredType → Option α)
    (types : List DeclaredType) :
    (allNodes types).findSome? test? = types.findSome? fun type => type.nodes.findSome? test? := by
  induction types with
  | nil => rfl
  | cons type rest induction =>
      rw [allNodes, List.findSome?_append, induction, List.findSome?_cons]
      cases type.nodes.findSome? test? <;> rfl

/-- A node that is neither a variable nor a wildcard. -/
def NodeIsConcrete : DeclaredType → Prop
  | .primitive _ | .plain _ | .parameterized .. | .array _ => True
  | .typeVariable _ | .anyWildcard | .extendsWildcard _ | .superWildcard _ => False

theorem isConcrete_iff {type : DeclaredType} :
    type.isConcrete = true ↔ ∀ node ∈ type.nodes, node.NodeIsConcrete := by
  induction type with
  | primitive _ | plain _ => exact iff_of_true rfl (List.forall_mem_singleton.mpr trivial)
  | array component induction =>
      rw [isConcrete, induction, nodes, List.forall_mem_cons]
      exact (and_iff_right trivial).symm
  | parameterized raw arguments induction =>
      rw [isConcrete, areConcrete_eq_all, List.all_eq_true, nodes, List.forall_mem_cons,
        allNodes_eq_flatMap, List.forall_mem_flatMap, forall₂_congr induction]
      exact (and_iff_right trivial).symm
  | typeVariable _ | anyWildcard =>
      exact iff_of_false nofun fun all => List.forall_mem_singleton.mp all
  | extendsWildcard _ _ | superWildcard _ _ =>
      exact iff_of_false nofun fun all => (List.forall_mem_cons.mp all).1

end DeclaredType

namespace Registry

variable {registry : Registry} {bound? : String → Option ResolvedType} {place : Place}
  {type : DeclaredType} {result : ResolvedType} {error : ResolutionError}

theorem substitute_eq_error_iff :
    registry.substitute bound? place type = .error error ↔
      type.firstObstacle? registry bound? place = some error := by
  induction type generalizing error with
  | primitive _ | plain _ => exact iff_of_false nofun nofun
  | typeVariable name =>
      rw [substitute, DeclaredType.firstObstacle?, DeclaredType.nodes, List.findSome?_singleton,
        DeclaredType.obstacle?]
      cases bound? name with
      | some argument => simp
      | none => simp
  | array component induction =>
      rw [substitute, map_eq_error_iff, induction]
      rfl
  | parameterized raw arguments induction =>
      rw [substitute, DeclaredType.firstObstacle?, DeclaredType.nodes, List.findSome?_cons,
        DeclaredType.obstacle?]
      cases registry.definition? raw with
      | none => simp
      | some definition =>
          dsimp only
          split
          · rw [map_eq_error_iff, (collects_substituteAll registry bound? place).eq_error_iff
              fun argument member error => induction argument member,
              DeclaredType.findSome?_allNodes]
            rfl
          · simp
  | anyWildcard | extendsWildcard _ _ | superWildcard _ _ =>
      rw [substitute, DeclaredType.firstObstacle?, DeclaredType.nodes, List.findSome?_cons,
        DeclaredType.obstacle?, Except.error.injEq, Option.some.injEq]

theorem exists_substitute_eq_ok_iff :
    (∃ result, registry.substitute bound? place type = .ok result) ↔
      ∀ node ∈ type.nodes, node.obstacle? registry bound? place = none := by
  rw [← List.findSome?_eq_none_iff]
  cases outcome : registry.substitute bound? place type with
  | ok result =>
      refine iff_of_true ⟨result, rfl⟩ (Option.eq_none_iff_forall_ne_some.mpr ?_)
      intro error stopped
      cases outcome.symm.trans (substitute_eq_error_iff.mpr stopped)
  | error error =>
      have stopped := substitute_eq_error_iff.mp outcome
      rw [DeclaredType.firstObstacle?] at stopped
      exact iff_of_false nofun (by simp [stopped])

/-- Without variables nothing but the form of the type changes. -/
theorem declared_of_concretize (concrete : registry.concretize type = .ok result) :
    result.declared = type := by
  unfold concretize at concrete
  induction type generalizing result with
  | primitive _ | plain _ =>
      cases concrete
      rfl
  | typeVariable name => cases concrete
  | array component induction =>
      rcases substitute_array_eq_ok_iff.mp concrete with ⟨inner, found, rfl⟩
      rw [ResolvedType.declared, induction found]
  | parameterized raw arguments induction =>
      rcases substitute_parameterized_eq_ok_iff.mp concrete with ⟨-, inner, each, rfl⟩
      have same : inner.map ResolvedType.declared = arguments := by
        rw [← List.forall₂_eq_eq_eq, List.forall₂_map_left_iff]
        exact (forall₂_imp_of_mem (fun argument member _ => induction argument member) each).flip
      rw [ResolvedType.declared, ResolvedType.declaredAll_eq_map, same]
  | anyWildcard | extendsWildcard _ _ | superWildcard _ _ => cases concrete

/-- Where classes have the right numbers of arguments, only variables and wildcards are left
to stand in the way. -/
theorem exists_concretize_iff
    (counted : ∀ raw arguments, .parameterized raw arguments ∈ type.nodes →
      ∃ definition, registry.definition? raw = some definition ∧
        definition.parameters.length = arguments.length) :
    (∃ result, registry.concretize type = .ok result) ↔ type.isConcrete = true := by
  rw [DeclaredType.isConcrete_iff]
  refine exists_substitute_eq_ok_iff.trans (forall₂_congr fun node member => ?_)
  cases node with
  | primitive _ | plain _ | array _ => exact iff_of_true rfl trivial
  | parameterized raw arguments =>
      rcases counted raw arguments member with ⟨definition, defined, length⟩
      refine iff_of_true ?_ trivial
      rw [DeclaredType.obstacle?, defined]
      exact if_pos length
  | typeVariable _ | anyWildcard | extendsWildcard _ | superWildcard _ =>
      exact iff_of_false nofun id

/-- Any type at all has a concrete form exactly if no node stands in the way, and otherwise
it is refused for the first that does.  The concrete form is the type node by node.  Where
classes have the right numbers of arguments, exactly the types without variables and
wildcards have one. -/
theorem concretize_stops_at_first_obstacle (registry : Registry) (type : DeclaredType) :
    ((∃ result, registry.concretize type = .ok result) ↔ ∀ node ∈ type.nodes,
      node.obstacle? registry (fun _ => none) .typeArgument = none) ∧
    (∀ error, registry.concretize type = .error error ↔
      type.nodes.findSome? (·.obstacle? registry (fun _ => none) .typeArgument) = some error) ∧
    (∀ result, registry.concretize type = .ok result → result.declared = type) ∧
    ((∀ raw arguments, .parameterized raw arguments ∈ type.nodes →
        ∃ definition, registry.definition? raw = some definition ∧
          definition.parameters.length = arguments.length) →
      ((∃ result, registry.concretize type = .ok result) ↔ type.isConcrete = true)) := by
  refine ⟨exists_substitute_eq_ok_iff, fun error => substitute_eq_error_iff,
    fun result => declared_of_concretize, exists_concretize_iff⟩

/-- Of two faults the outer one is reported, and of two arguments the first. -/
example : (withBuiltIns ⟨0⟩).concretize
    (.parameterized ⟨15⟩ [.array (.typeVariable "K"), .parameterized ⟨12⟩ [.anyWildcard]]) =
      .error (.unboundVariable "K") := by decide +kernel

end Registry

end FieldTypes
