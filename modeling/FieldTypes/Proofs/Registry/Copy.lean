import FieldTypes.Proofs.Registry.Faults
import FieldTypes.Proofs.Registry.Reachable

/-! What is asked of a copy and of its original has the same answer.  The identity of a
registry is written into its definitions and is read nowhere else, so every request does
to a copy what it does to the original, and leaves a copy again. -/

namespace FieldTypes.Registry

variable {registry : Registry} {batch : List ClassDeclaration}

@[simp] theorem idOf?_copy (identity : RegistryId) (registry : Registry) (name : String) :
    (registry.copy identity).idOf? name = registry.idOf? name :=
  rfl

@[simp] theorem isDefined_copy (identity : RegistryId) (registry : Registry) (id : ClassId) :
    (registry.copy identity).isDefined id = registry.isDefined id := by
  rw [isDefined, definition?_copy, Option.isSome_map, isDefined]

@[simp] theorem length_slots_copy (identity : RegistryId) (registry : Registry) :
    (registry.copy identity).slots.length = registry.slots.length :=
  List.length_map _

theorem onlySimple?_copy (identity : RegistryId) (registry : Registry) (simple : String) :
    (registry.copy identity).onlySimple? simple = registry.onlySimple? simple := by
  rw [onlySimple?, onlySimple?, copy, List.zipIdx_map, List.filter_map]
  have sameTest : (fun place : Slot × Nat => hasSimpleName simple place.1) ∘
      Prod.map (fun slot : Slot =>
        { slot with definition? := slot.definition?.map (·.moveTo identity) }) id =
      fun place => hasSimpleName simple place.1 := rfl
  rw [sameTest]
  generalize registry.slots.zipIdx.filter (fun place => hasSimpleName simple place.1) = found
  cases found with
  | nil => rfl
  | cons only others =>
      cases others with
      | nil => rfl
      | cons another others => rfl

@[simp] theorem lookup?_copy (identity : RegistryId) (registry : Registry) (name : String) :
    (registry.copy identity).lookup? name = registry.lookup? name := by
  rw [lookup?, lookup?, onlySimple?_copy]
  rfl

/-! ## Requests -/

theorem intern_copy (identity : RegistryId) (registry : Registry) (name : String) :
    (registry.copy identity).intern name =
      ((registry.intern name).1.copy identity, (registry.intern name).2) := by
  cases known : registry.idOf? name with
  | some id => rw [intern_of_known known, intern_of_known ((idOf?_copy ..).trans known)]
  | none =>
      rw [intern_of_unknown known, intern_of_unknown ((idOf?_copy ..).trans known),
        length_slots_copy]
      simp [copy]

theorem moveTo_definitionOf (first second : RegistryId) (id : ClassId)
    (declaration : ClassDeclaration) :
    (definitionOf first id declaration).moveTo second = definitionOf second id declaration := by
  rw [definitionOf, ClassDefinition.moveTo, definitionOf, List.map_map]
  rfl

theorem store_copy (identity : RegistryId) (registry : Registry)
    (declaration : ClassDeclaration) :
    (registry.copy identity).store declaration = (registry.store declaration).copy identity := by
  rw [store_eq, store_eq, intern_copy, copy, copy]
  simp only [Registry.mk.injEq, true_and, and_true]
  apply List.ext_getElem?
  intro index
  simp only [List.getElem?_modify, List.getElem?_map]
  cases (registry.intern declaration.name).1.slots[index]? with
  | none => rfl
  | some slot =>
      simp only [Option.map_eq_map, Option.map_some]
      split
      · rw [Option.map_some, moveTo_definitionOf]
      · rfl

theorem foldl_store_copy (identity : RegistryId) (registry : Registry)
    (batch : List ClassDeclaration) :
    batch.foldl store (registry.copy identity) = (batch.foldl store registry).copy identity :=
  List.foldl_hom (copy identity) (store_copy identity)

theorem planned_copy (identity : RegistryId) (registry : Registry)
    (batch : List ClassDeclaration) :
    (registry.copy identity).planned batch = registry.planned batch := by
  simp only [planned, plannedId, idOf?_copy, length_slots_copy]

theorem faults_copy (identity : RegistryId) (registry : Registry)
    (batch : List ClassDeclaration) :
    (registry.copy identity).faults batch = registry.faults batch := by
  have arities : (registry.copy identity).arityWith? batch = registry.arityWith? batch := by
    funext id
    rw [arityWith?, arity?_copy, planned_copy, arityWith?]
  have names : (registry.copy identity).diagnosticName = registry.diagnosticName := by
    funext id
    rw [diagnosticName, nameOf?_copy, diagnosticName]
  have classes : (registry.copy identity).hasClass = registry.hasClass := by
    funext name
    rw [hasClass, idOf?_copy, funext (isDefined_copy identity registry), hasClass]
  rw [faults, faults, arities, names, duplicateClasses, duplicateClasses, classes]

/-- A batch has the same outcome in a copy, with the same ids or the same fault. -/
theorem define_copy (identity : RegistryId) (registry : Registry)
    (batch : List ClassDeclaration) :
    (registry.copy identity).define batch =
      (registry.define batch).map fun result => (result.1.copy identity, result.2) := by
  rw [define_eq_report, define_eq_report, faults_copy, foldl_store_copy, planned_copy, map_report]

theorem withBuiltIns_copy (first second : RegistryId) :
    (withBuiltIns first).copy second = withBuiltIns second := by
  rw [withBuiltIns, ← foldl_store_copy]
  rfl

end FieldTypes.Registry
