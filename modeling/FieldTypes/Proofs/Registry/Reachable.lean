import FieldTypes.Proofs.Registry.Invariant

/-! The registries that a program can hold: it starts with an empty registry or
with the built-in classes, and then interns, defines and copies in any order. -/

namespace FieldTypes.Registry

variable {registry grown : Registry} {id : ClassId} {definition : ClassDefinition}

/-- What can be asked of one registry.  A single class is a batch of its own. -/
inductive Change where
  | intern (name : String)
  | define (batch : List ClassDeclaration)
deriving Repr

/-- A batch with a fault changes nothing. -/
def change (registry : Registry) : Change → Registry
  | .intern name => (registry.intern name).1
  | .define batch =>
      match registry.define batch with
      | .error _ => registry
      | .ok (grown, _) => grown

inductive Reachable : Registry → Prop
  | empty (identity : RegistryId) : Reachable (empty identity)
  | withBuiltIns (identity : RegistryId) : Reachable (withBuiltIns identity)
  | change {registry : Registry} (request : Change) :
      Reachable registry → Reachable (registry.change request)
  | copy {registry : Registry} (identity : RegistryId) :
      Reachable registry → Reachable (registry.copy identity)

theorem WellFormed.change (wellFormed : registry.WellFormed) (request : Change) :
    (registry.change request).WellFormed := by
  cases request with
  | intern name => exact wellFormed.intern name
  | define batch =>
      rw [Registry.change]
      split
      · exact wellFormed
      · next defined => exact wellFormed.define defined

theorem GrowsTo.change (indexed : registry.Indexed) (request : Change) :
    registry.GrowsTo (registry.change request) := by
  cases request with
  | intern name => exact GrowsTo.intern registry name
  | define batch =>
      rw [Registry.change]
      split
      · exact GrowsTo.refl registry
      · next defined => exact GrowsTo.define indexed defined

/-- However long a registry goes on, what it held before it still holds. -/
theorem WellFormed.foldl_change (wellFormed : registry.WellFormed)
    (requests : List Change) :
    (requests.foldl Registry.change registry).WellFormed ∧
      registry.GrowsTo (requests.foldl Registry.change registry) := by
  induction requests generalizing registry with
  | nil => exact ⟨wellFormed, GrowsTo.refl registry⟩
  | cons request rest induction =>
      rcases induction (wellFormed.change request) with ⟨lastWellFormed, growth⟩
      exact ⟨lastWellFormed, (GrowsTo.change wellFormed.indexed request).trans growth⟩

/-! A copy answers every question about names as its original does, and gives
the same definitions under its own identity. -/

@[simp] theorem nameOf?_copy (identity : RegistryId) (registry : Registry) (id : ClassId) :
    (registry.copy identity).nameOf? id = registry.nameOf? id := by
  simp only [nameOf?, copy, List.getElem?_map, Option.map_map, Function.comp_def]

@[simp] theorem definition?_copy (identity : RegistryId) (registry : Registry)
    (id : ClassId) :
    (registry.copy identity).definition? id =
      (registry.definition? id).map (·.moveTo identity) := by
  simp only [definition?, copy, List.getElem?_map]
  cases registry.slots[id.index]? <;> rfl

@[simp] theorem arity?_copy (identity : RegistryId) (registry : Registry) :
    (registry.copy identity).arity? = registry.arity? := by
  funext id
  rw [arity?, definition?_copy, Option.map_map, arity?]
  rfl

theorem Holds.copy (holds : registry.Holds id definition) (identity : RegistryId) :
    (registry.copy identity).Holds id (definition.moveTo identity) where
  id_eq := holds.id_eq
  nameOf?_eq := (nameOf?_copy identity registry id).trans holds.nameOf?_eq
  registry_eq := rfl
  parameters_nodup := holds.parameters_nodup
  fieldNames_nodup := by
    rw [ClassDefinition.moveTo, List.map_map]
    exact holds.fieldNames_nodup
  owner_eq := by
    simp only [ClassDefinition.moveTo, List.forall_mem_map]
    exact holds.owner_eq
  ownerName_eq := by
    simp only [ClassDefinition.moveTo, List.forall_mem_map]
    exact holds.ownerName_eq
  fieldRegistry_eq := by
    simp [ClassDefinition.moveTo, Registry.copy]
  types_fit := by
    simp only [ClassDefinition.moveTo, List.forall_mem_map, arity?_copy]
    exact holds.types_fit

theorem WellFormed.copy (wellFormed : registry.WellFormed) (identity : RegistryId) :
    (registry.copy identity).WellFormed where
  indexed :=
    { length_places := by
        rw [Registry.copy, List.length_map]
        exact wellFormed.indexed.length_places
      idOf?_iff := by
        intro name id
        rw [nameOf?_copy]
        exact wellFormed.indexed.idOf?_iff }
  holds defined := by
    rw [definition?_copy, Option.map_eq_some_iff] at defined
    rcases defined with ⟨original, stored, rfl⟩
    exact (wellFormed.holds stored).copy identity

theorem Reachable.wellFormed (reachable : registry.Reachable) : registry.WellFormed := by
  induction reachable with
  | empty identity => exact wellFormed_empty identity
  | withBuiltIns identity => exact wellFormed_withBuiltIns identity
  | change request _ induction => exact induction.change request
  | copy identity _ induction => exact induction.copy identity

theorem Indexed.names_nodup (indexed : registry.Indexed) :
    (registry.slots.map (·.name)).Nodup := by
  rw [List.nodup_iff_pairwise_ne, List.pairwise_iff_getElem]
  intro left right leftWithin rightWithin before same
  rw [List.getElem_map, List.getElem_map] at same
  rw [List.length_map] at leftWithin rightWithin
  have leftKnown : registry.idOf? registry.slots[left].name = some ⟨left⟩ :=
    indexed.idOf?_iff.mpr (by rw [nameOf?, List.getElem?_eq_getElem leftWithin]; rfl)
  have rightKnown : registry.idOf? registry.slots[right].name = some ⟨right⟩ :=
    indexed.idOf?_iff.mpr (by rw [nameOf?, List.getElem?_eq_getElem rightWithin]; rfl)
  rw [same, rightKnown] at leftKnown
  exact Nat.ne_of_gt before (congrArg ClassId.index (Option.some.inj leftKnown))

/-- Names are numbered without gaps or repeats, the index inverts the numbering,
and every definition suits the slot and the registry that it stands in. -/
theorem Reachable.invariant (reachable : registry.Reachable) :
    registry.places.length = registry.slots.length ∧
      (registry.slots.map (·.name)).Nodup ∧
      (∀ id, (registry.nameOf? id).isSome = true ↔ id.index < registry.slots.length) ∧
      (∀ name id, registry.idOf? name = some id ↔ registry.nameOf? id = some name) ∧
      ∀ id definition, registry.definition? id = some definition →
        registry.Holds id definition :=
  have wellFormed := reachable.wellFormed
  ⟨wellFormed.indexed.length_places, wellFormed.indexed.names_nodup,
    fun _ => nameOf?_isSome_iff, fun _ _ => wellFormed.indexed.idOf?_iff,
    fun _ _ => wellFormed.holds⟩

/-! A family of two classes that mention each other, one of them under a name
that has a place before the class is defined. -/

def familyParent : ClassDeclaration where
  name := "family.Parent"
  parameters := ["T"]
  fields := [⟨"children", .parameterized ⟨12⟩
    [.extendsWildcard (.parameterized ⟨17⟩ [.typeVariable "T"])]⟩]

def familyChild : ClassDeclaration where
  name := "family.Child"
  parameters := ["T"]
  fields := [⟨"parent", .array (.parameterized ⟨18⟩ [.typeVariable "T"])⟩, ⟨"name", .plain ⟨1⟩⟩]

def family : Registry :=
  ((withBuiltIns ⟨0⟩).change (.intern "family.Child")).change
    (.define [familyParent, familyChild])

theorem family_reachable : family.Reachable :=
  .change _ (.change _ (.withBuiltIns _))

theorem definition?_familyChild :
    family.definition? ⟨17⟩ = some (definitionOf ⟨0⟩ ⟨17⟩ familyChild) := by
  decide +kernel

/-- The copied family has definitions to speak of, and they are its own. -/
theorem invariant_of_copied_family :
    (family.copy ⟨1⟩).Reachable ∧ (family.copy ⟨1⟩).size = 19 ∧
      (family.copy ⟨1⟩).places.length = (family.copy ⟨1⟩).slots.length ∧
      ((family.copy ⟨1⟩).slots.map (·.name)).Nodup ∧
      (∀ id, ((family.copy ⟨1⟩).nameOf? id).isSome = true ↔
        id.index < (family.copy ⟨1⟩).slots.length) ∧
      (∀ name id, (family.copy ⟨1⟩).idOf? name = some id ↔
        (family.copy ⟨1⟩).nameOf? id = some name) ∧
      ∀ id definition, (family.copy ⟨1⟩).definition? id = some definition →
        (family.copy ⟨1⟩).Holds id definition :=
  ⟨family_reachable.copy ⟨1⟩, by decide +kernel,
    Reachable.invariant (family_reachable.copy ⟨1⟩)⟩

end FieldTypes.Registry
