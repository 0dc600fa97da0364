import FieldTypes.Proofs.Resolution.Progress
import Mathlib.Data.List.Nodup

/-! The ways to ask a resolver for the types of fields: to hand over a field, to name it, or to
ask for all fields of the class.  The answers agree.  A name leads to its own field, since no
two fields of a class share a name, and all fields come to what each of them comes to.  They
fail together if one of them fails, which is the first whose type contains a wildcard. -/

namespace FieldTypes

variable {field : FieldDefinition} {name : String}

theorem ClassDefinition.field?_eq_none_iff {definition : ClassDefinition} :
    definition.field? name = none ↔ name ∉ definition.fields.map (·.name) := by
  simp [ClassDefinition.field?]

/-- With distinct names the first field of a name is the only one. -/
theorem ClassDefinition.field?_of_mem {definition : ClassDefinition}
    (distinct : (definition.fields.map (·.name)).Nodup) (own : field ∈ definition.fields) :
    definition.field? field.name = some field := by
  cases found : definition.field? field.name with
  | none => exact absurd (List.mem_map_of_mem own) (field?_eq_none_iff.mp found)
  | some other =>
      rw [ClassDefinition.field?] at found
      have sameName : other.name = field.name := by simpa using List.find?_some found
      rw [List.inj_on_of_nodup_map distinct (List.mem_of_find?_eq_some found) own sameName]

namespace Resolver

variable {resolver : Resolver} {error : ResolutionError}
  {results : List (FieldDefinition × ResolvedType)}

theorem resolveNamed_of_mem (distinct : (resolver.definition.fields.map (·.name)).Nodup)
    (own : field ∈ resolver.definition.fields) :
    resolver.resolveNamed field.name = resolver.resolve field := by
  rw [resolveNamed, ClassDefinition.field?_of_mem distinct own]

theorem resolveNamed_of_not_mem (unknown : name ∉ resolver.definition.fields.map (·.name)) :
    resolver.resolveNamed name = .error (.unknownField resolver.definition.name name) := by
  rw [resolveNamed, ClassDefinition.field?_eq_none_iff.mpr unknown]

theorem collects_resolveFields (resolver : Resolver) :
    Collects (fun field => (resolver.resolve field).map (field, ·)) resolver.resolveFields where
  nil_eq := rfl
  cons_eq field rest := by
    rw [resolveFields]
    cases resolver.resolve field with
    | error error => rfl
    | ok type => rfl

/-- What the walk takes down for a field is the field itself with its type. -/
theorem map_pair_eq_ok_iff {result : FieldDefinition × ResolvedType} :
    (resolver.resolve field).map (field, ·) = .ok result ↔
      resolver.resolve result.1 = .ok result.2 ∧ result.1 = field := by
  rcases result with ⟨other, type⟩
  cases outcome : resolver.resolve field with
  | error error =>
      refine iff_of_false nofun ?_
      rintro ⟨resolved, rfl⟩
      cases outcome.symm.trans resolved
  | ok found =>
      constructor
      · rintro ⟨⟩
        exact ⟨outcome, rfl⟩
      · rintro ⟨resolved, rfl⟩
        cases outcome.symm.trans resolved
        rfl

/-- A list of results for all fields is one for each in their order. -/
theorem resolveAll_eq_ok_iff :
    resolver.resolveAll = .ok results ↔
      results.map (·.1) = resolver.definition.fields ∧
        ∀ result ∈ results, resolver.resolve result.1 = .ok result.2 := by
  have sameFields : List.Forall₂ (fun result field => result.1 = field) results
      resolver.definition.fields ↔ results.map (·.1) = resolver.definition.fields := by
    rw [← List.forall₂_map_left_iff, List.forall₂_eq_eq_eq]
  rw [resolveAll, (collects_resolveFields resolver).eq_ok_iff, and_comm, ← sameFields,
    ← List.forall₂_and_left]
  simp only [map_pair_eq_ok_iff]
  exact ⟨List.Forall₂.flip, List.Forall₂.flip⟩

theorem exists_resolveAll_iff :
    (∃ results, resolver.resolveAll = .ok results) ↔
      ∀ field ∈ resolver.definition.fields, ∃ type, resolver.resolve field = .ok type := by
  constructor
  · rintro ⟨results, passed⟩ field own
    rcases resolveAll_eq_ok_iff.mp passed with ⟨sameFields, resolved⟩
    rw [← sameFields] at own
    rcases List.mem_map.mp own with ⟨result, member, rfl⟩
    exact ⟨result.2, resolved result member⟩
  · intro each
    refine (collects_resolveFields resolver).exists_eq_ok fun field own => ?_
    rcases each field own with ⟨type, resolved⟩
    exact ⟨(field, type), by rw [resolved]; rfl⟩

variable (holds : resolver.registry.Holds resolver.definition.id resolver.definition)

include holds

theorem exists_resolve_eq_error_iff (own : field ∈ resolver.definition.fields) :
    (∃ error, resolver.resolve field = .error error) ↔ field.type.containsWildcard = true := by
  have outcome := resolver.resolve_own_field holds own
  split at outcome
  · next wild => exact iff_of_true ⟨_, outcome⟩ wild
  · next tame =>
      rcases outcome with ⟨type, resolved⟩
      rw [resolved]
      exact iff_of_false nofun tame

/-- The error of all fields is that of the first field with a wildcard. -/
theorem resolveAll_eq_error_iff :
    resolver.resolveAll = .error error ↔
      ∃ field, resolver.definition.fields.find? (·.type.containsWildcard) = some field ∧
        resolver.resolve field = .error error := by
  have tested : ∀ field ∈ resolver.definition.fields,
      (∃ error, (resolver.resolve field).map (field, ·) = .error error) ↔
        field.type.containsWildcard = true := by
    intro field own
    simp only [map_eq_error_iff]
    exact exists_resolve_eq_error_iff holds own
  rw [resolveAll, (collects_resolveFields resolver).eq_error_iff_find? tested]
  simp only [map_eq_error_iff]

end Resolver

namespace Registry

/-- A field comes to the same by itself, by its name and among all fields, and no other name is
known.  All fields resolve together exactly if each does; they are then listed one by one in
the order of their declaration.  If they do not, then for the first field whose type contains
a wildcard. -/
theorem Reachable.resolves_alike_each_way {registry : Registry} (reachable : registry.Reachable)
    {id : ClassId} {arguments : List ResolvedType} {resolver : Resolver}
    (made : registry.resolver id arguments = .ok resolver) :
    (∀ field ∈ resolver.definition.fields,
      resolver.resolveNamed field.name = resolver.resolve field) ∧
    (∀ name, name ∉ resolver.definition.fields.map (·.name) →
      resolver.resolveNamed name = .error (.unknownField resolver.definition.name name)) ∧
    ((∃ results, resolver.resolveAll = .ok results) ↔
      ∀ field ∈ resolver.definition.fields, ∃ type, resolver.resolve field = .ok type) ∧
    resolver.definition.fields.Nodup ∧
    (∀ results, resolver.resolveAll = .ok results ↔
      results.map (·.1) = resolver.definition.fields ∧
        ∀ result ∈ results, resolver.resolve result.1 = .ok result.2) ∧
    ∀ error, resolver.resolveAll = .error error ↔
      ∃ field, resolver.definition.fields.find? (·.type.containsWildcard) = some field ∧
        resolver.resolve field = .error error := by
  rcases parts_of_resolver made with ⟨defined, rfl, -⟩
  have holds := reachable.wellFormed.holds defined
  have distinct := holds.fieldNames_nodup
  refine ⟨fun field own => Resolver.resolveNamed_of_mem distinct own,
    fun name unknown => Resolver.resolveNamed_of_not_mem unknown,
    Resolver.exists_resolveAll_iff, distinct.of_map _,
    fun results => Resolver.resolveAll_eq_ok_iff, fun error => ?_⟩
  exact Resolver.resolveAll_eq_error_iff (by rw [holds.id_eq]; exact holds)

/-! A class with fields that resolve before and behind a field that does not. -/

def shelf : ClassDeclaration where
  name := "shelf.Shelf"
  parameters := ["T"]
  fields := [⟨"label", .plain ⟨1⟩⟩,
    ⟨"items", .parameterized ⟨12⟩ [.extendsWildcard (.typeVariable "T")]⟩,
    ⟨"spare", .array (.typeVariable "T")⟩, ⟨"rest", .parameterized ⟨12⟩ [.anyWildcard]⟩]

def shelves : Registry :=
  (withBuiltIns ⟨0⟩).change (.define [shelf])

/-- The items of a shelf stand in the way of all its fields. -/
theorem resolves_alike_each_way_of_shelf :
    let resolver : Resolver :=
      ⟨shelves, definitionOf ⟨0⟩ ⟨17⟩ shelf, [.primitive .int], rfl⟩
    shelves.Reachable ∧ shelves.resolver ⟨17⟩ [.primitive .int] = .ok resolver ∧
      resolver.resolveNamed "spare" = .ok (.array (.primitive .int)) ∧
      resolver.resolveAll = .error (.wildcard (.field "shelf.Shelf" "items")) ∧
      (∀ field ∈ resolver.definition.fields,
        resolver.resolveNamed field.name = resolver.resolve field) ∧
      (∀ name, name ∉ resolver.definition.fields.map (·.name) →
        resolver.resolveNamed name = .error (.unknownField resolver.definition.name name)) ∧
      ((∃ results, resolver.resolveAll = .ok results) ↔
        ∀ field ∈ resolver.definition.fields, ∃ type, resolver.resolve field = .ok type) ∧
      resolver.definition.fields.Nodup ∧
      (∀ results, resolver.resolveAll = .ok results ↔
        results.map (·.1) = resolver.definition.fields ∧
          ∀ result ∈ results, resolver.resolve result.1 = .ok result.2) ∧
      ∀ error, resolver.resolveAll = .error error ↔
        ∃ field, resolver.definition.fields.find? (·.type.containsWildcard) = some field ∧
          resolver.resolve field = .error error := by
  intro resolver
  have reachable : shelves.Reachable := .change _ (.withBuiltIns _)
  have defined : shelves.definition? ⟨17⟩ = some (definitionOf ⟨0⟩ ⟨17⟩ shelf) := by
    decide +kernel
  have made : shelves.resolver ⟨17⟩ [.primitive .int] = .ok resolver :=
    resolver_of_arity defined rfl
  exact ⟨reachable, made, by decide +kernel, by decide +kernel,
    Reachable.resolves_alike_each_way reachable made⟩

end Registry

end FieldTypes
