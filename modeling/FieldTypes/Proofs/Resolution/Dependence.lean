import FieldTypes.Proofs.Resolution.Composition
import FieldTypes.Proofs.Resolution.Obstacles

/-! What the type of a resolved field depends on.  A type argument takes part in it exactly
if the field mentions its type parameter: the other arguments may change without any effect,
and no change of a mentioned argument goes unnoticed. -/

namespace FieldTypes

namespace Registry

variable {registry : Registry} {first? second? : String → Option ResolvedType} {place : Place}
  {type : DeclaredType} {result : ResolvedType}

/-! ## Variables of a type -/

/-- Only the types that are bound to variables in it matter to a declared type. -/
theorem substitute_congr
    (agree : ∀ name, .typeVariable name ∈ type.nodes → first? name = second? name) :
    registry.substitute first? place type = registry.substitute second? place type := by
  induction type with
  | primitive _ | plain _ => rfl
  | typeVariable name => rw [substitute, substitute, agree name List.mem_cons_self]
  | array component induction =>
      rw [substitute, substitute,
        induction fun name member => agree name (List.mem_cons_of_mem _ member)]
  | parameterized raw arguments induction =>
      rw [DeclaredType.nodes, DeclaredType.allNodes_eq_flatMap] at agree
      have same : registry.substituteAll first? place (arguments.map id) =
          registry.substituteAll second? place arguments :=
        (collects_substituteAll registry second? place).map_eq
          (collects_substituteAll registry first? place) fun argument member =>
            induction argument member fun name inside =>
              agree name (List.mem_cons_of_mem _ (List.mem_flatMap_of_mem member inside))
      rw [List.map_id] at same
      rw [substitute, substitute, same]
  | anyWildcard | extendsWildcard _ _ | superWildcard _ _ => rfl

/-- Every type that is bound to a variable shows in the result. -/
theorem bound?_eq_of_substitute_eq
    (first : registry.substitute first? place type = .ok result)
    (second : registry.substitute second? place type = .ok result) {name : String}
    (member : .typeVariable name ∈ type.nodes) : first? name = second? name := by
  induction type generalizing result with
  | primitive _ | plain _ => cases List.mem_singleton.mp member
  | typeVariable other =>
      cases List.mem_singleton.mp member
      rw [substitute_typeVariable_eq_ok_iff.mp first, substitute_typeVariable_eq_ok_iff.mp second]
  | array component induction =>
      rcases substitute_array_eq_ok_iff.mp first with ⟨inner, firstFound, rfl⟩
      rcases substitute_array_eq_ok_iff.mp second with ⟨_, secondFound, same⟩
      cases same
      rcases List.mem_cons.mp member with same | inside
      · cases same
      · exact induction firstFound secondFound inside
  | parameterized raw arguments induction =>
      rcases substitute_parameterized_eq_ok_iff.mp first with ⟨-, inner, firstEach, rfl⟩
      rcases substitute_parameterized_eq_ok_iff.mp second with ⟨-, _, secondEach, same⟩
      cases same
      rw [DeclaredType.nodes, List.mem_cons, DeclaredType.allNodes_eq_flatMap,
        List.mem_flatMap] at member
      rcases member with same | ⟨argument, within, inside⟩
      · cases same
      · rcases List.getElem_of_mem within with ⟨index, bound, rfl⟩
        have innerBound : index < inner.length := firstEach.length_eq ▸ bound
        exact induction _ within (firstEach.get bound innerBound)
          (secondEach.get bound innerBound) inside
  | anyWildcard | extendsWildcard _ _ | superWildcard _ _ => cases first

end Registry

/-! ## Arguments of a resolver -/

/-- With distinct parameters the name of a parameter leads to the argument at its place. -/
theorem Resolver.bound?_eq_getElem? (resolver : Resolver)
    (distinct : resolver.definition.parameters.Nodup) {index : Nat} {name : String}
    (parameter : resolver.definition.parameters[index]? = some name) :
    resolver.bound? name = resolver.arguments[index]? := by
  rcases List.getElem?_eq_some_iff.mp parameter with ⟨within, rfl⟩
  have found : resolver.definition.parameterPlace? resolver.definition.parameters[index] =
      some index := by
    rw [ClassDefinition.parameterPlace?, List.findIdx?_eq_some_iff_findIdx_eq]
    exact ⟨within, distinct.idxOf_getElem index within⟩
  rw [Resolver.bound?, found, Option.bind_some]

namespace Registry

variable {registry : Registry} {id : ClassId} {definition : ClassDefinition}

/-- The two lists have the same argument for every type parameter that the type mentions. -/
def AgreeOn (parameters : List String) (type : DeclaredType) (first second : List ResolvedType) :
    Prop :=
  ∀ (index : Nat) name, parameters[index]? = some name → .typeVariable name ∈ type.nodes →
    first[index]? = second[index]?

/-- Whether two resolvers of one class agree on the variables of a type. -/
theorem agreeOn_iff {parameters : List String} (distinct : parameters.Nodup)
    (left right : Resolver) (leftParameters : left.definition.parameters = parameters)
    (rightParameters : right.definition.parameters = parameters) {type : DeclaredType}
    (fits : type.Fits registry.arity? parameters) :
    AgreeOn parameters type left.arguments right.arguments ↔
      ∀ name, .typeVariable name ∈ type.nodes → left.bound? name = right.bound? name := by
  have leftBound : ∀ {index : Nat} {name : String}, parameters[index]? = some name →
      left.bound? name = left.arguments[index]? := fun parameter =>
    left.bound?_eq_getElem? (leftParameters ▸ distinct) (leftParameters ▸ parameter)
  have rightBound : ∀ {index : Nat} {name : String}, parameters[index]? = some name →
      right.bound? name = right.arguments[index]? := fun parameter =>
    right.bound?_eq_getElem? (rightParameters ▸ distinct) (rightParameters ▸ parameter)
  constructor
  · intro agree name member
    rcases List.mem_iff_getElem?.mp (fits _ member) with ⟨index, parameter⟩
    rw [leftBound parameter, rightBound parameter]
    exact agree index name parameter member
  · intro agree index name parameter member
    rw [← leftBound parameter, ← rightBound parameter]
    exact agree name member

/-- A field resolves alike under two lists of arguments that agree on its variables.  If it
resolves to the same type under both, they do agree.  A concrete field type becomes what it
is by itself, whatever the arguments are. -/
theorem Reachable.depends_on_mentioned_arguments (reachable : registry.Reachable)
    (defined : registry.definition? id = some definition) {field : FieldDefinition}
    (own : field ∈ definition.fields) {first second : List ResolvedType}
    (firstArity : first.length = definition.parameters.length)
    (secondArity : second.length = definition.parameters.length) :
    ∃ left right, registry.resolver id first = .ok left ∧
      registry.resolver id second = .ok right ∧
      (AgreeOn definition.parameters field.type first second →
        left.resolve field = right.resolve field) ∧
      (∀ type, left.resolve field = .ok type → right.resolve field = .ok type →
        AgreeOn definition.parameters field.type first second) ∧
      (field.type.isConcrete = true → ∃ type, registry.concretize field.type = .ok type ∧
        left.resolve field = .ok type) := by
  have holds := reachable.wellFormed.holds defined
  let left : Resolver := ⟨registry, definition, first, firstArity⟩
  let right : Resolver := ⟨registry, definition, second, secondArity⟩
  have leftResolve := left.resolve_eq_substitute (by rw [holds.id_eq]; exact holds) own
  have rightResolve := right.resolve_eq_substitute (by rw [holds.id_eq]; exact holds) own
  have agreement : AgreeOn definition.parameters field.type first second ↔ _ :=
    agreeOn_iff holds.parameters_nodup left right rfl rfl (holds.types_fit field own)
  refine ⟨left, right, resolver_of_arity defined firstArity,
    resolver_of_arity defined secondArity, ?_, ?_, ?_⟩
  · intro agree
    rw [leftResolve, rightResolve]
    exact substitute_congr (agreement.mp agree)
  · intro type leftResolved rightResolved
    rw [leftResolve] at leftResolved
    rw [rightResolve] at rightResolved
    exact agreement.mpr fun name => bound?_eq_of_substitute_eq leftResolved rightResolved
  · intro concrete
    rcases (exists_concretize_iff fun raw arguments member =>
      arity?_eq_some_iff.mp (holds.types_fit field own _ member)).mpr concrete with ⟨type, passed⟩
    refine ⟨type, passed, ?_⟩
    rw [leftResolve]
    exact substitute_mono (fun _ _ known => known) (fun _ _ bound => by cases bound) _ passed

/-- The first of a pair does not depend on what the second is. -/
theorem depends_on_mentioned_arguments_of_pairs :
    let first : FieldDefinition := ⟨⟨0⟩, ⟨17⟩, "pair.Pair", "first", .typeVariable "A"⟩
    let strings : List ResolvedType := [.plain ⟨1⟩, .plain ⟨1⟩]
    let others : List ResolvedType := [.plain ⟨1⟩, .array (.primitive .int)]
    pairs.Reachable ∧ pairs.definition? ⟨17⟩ = some (definitionOf ⟨0⟩ ⟨17⟩ pair) ∧
      first ∈ (definitionOf ⟨0⟩ ⟨17⟩ pair).fields ∧
      AgreeOn ["A", "B"] first.type strings others ∧ strings ≠ others ∧
      ∃ left right, pairs.resolver ⟨17⟩ strings = .ok left ∧
        pairs.resolver ⟨17⟩ others = .ok right ∧
        (AgreeOn ["A", "B"] first.type strings others →
          left.resolve first = right.resolve first) ∧
        (∀ type, left.resolve first = .ok type → right.resolve first = .ok type →
          AgreeOn ["A", "B"] first.type strings others) ∧
        (first.type.isConcrete = true → ∃ type, pairs.concretize first.type = .ok type ∧
          left.resolve first = .ok type) := by
  intro first strings others
  have reachable : pairs.Reachable := .change _ (.withBuiltIns _)
  have defined : pairs.definition? ⟨17⟩ = some (definitionOf ⟨0⟩ ⟨17⟩ pair) := by
    decide +kernel
  have own : first ∈ (definitionOf ⟨0⟩ ⟨17⟩ pair).fields := by decide
  refine ⟨reachable, defined, own, ?_, by decide,
    Reachable.depends_on_mentioned_arguments reachable defined own rfl rfl⟩
  intro index name parameter member
  cases List.mem_singleton.mp member
  cases index with
  | zero => rfl
  | succ later =>
      cases later with
      | zero => exact absurd parameter (by decide)
      | succ _ => cases parameter

end Registry

end FieldTypes
