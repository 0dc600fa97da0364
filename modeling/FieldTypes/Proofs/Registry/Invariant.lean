import FieldTypes.Proofs.Registry.Batch
import FieldTypes.Registry.BuiltIn

/-! The invariant of a registry.  Interning, defining and copying keep it, and so
it holds of every registry that these operations lead to. -/

namespace FieldTypes.Registry

variable {registry grown : Registry} {name : String} {id : ClassId}
  {batch : List ClassDeclaration} {ids : List ClassId} {definition : ClassDefinition}

/-- The number of type parameters of a defined class. -/
def arity? (registry : Registry) (id : ClassId) : Option Nat :=
  (registry.definition? id).map (·.parameters.length)

theorem arity?_eq_some_iff {count : Nat} :
    registry.arity? id = some count ↔
      ∃ definition, registry.definition? id = some definition ∧
        definition.parameters.length = count :=
  Option.map_eq_some_iff

/-- What a registry owes to a definition in the slot of an id. -/
structure Holds (registry : Registry) (id : ClassId) (definition : ClassDefinition) :
    Prop where
  id_eq : definition.id = id
  nameOf?_eq : registry.nameOf? id = some definition.name
  registry_eq : definition.registry = registry.identity
  parameters_nodup : definition.parameters.Nodup
  fieldNames_nodup : (definition.fields.map (·.name)).Nodup
  owner_eq : ∀ field ∈ definition.fields, field.owner = id
  ownerName_eq : ∀ field ∈ definition.fields, field.ownerName = definition.name
  fieldRegistry_eq : ∀ field ∈ definition.fields, field.registry = registry.identity
  types_fit : ∀ field ∈ definition.fields,
    field.type.Fits registry.arity? definition.parameters

/-- The index is right, and so is whatever stands in a slot. -/
structure WellFormed (registry : Registry) : Prop where
  indexed : registry.Indexed
  holds : ∀ {id : ClassId} {definition : ClassDefinition},
    registry.definition? id = some definition → registry.Holds id definition

/-! ## Growth -/

/-- Names keep their ids, and definitions stay as they are. -/
structure GrowsTo (registry grown : Registry) : Prop where
  identity_eq : grown.identity = registry.identity
  nameOf?_eq : ∀ {id : ClassId} {name : String},
    registry.nameOf? id = some name → grown.nameOf? id = some name
  definition?_eq : ∀ {id : ClassId} {definition : ClassDefinition},
    registry.definition? id = some definition → grown.definition? id = some definition

namespace GrowsTo

theorem refl (registry : Registry) : registry.GrowsTo registry :=
  ⟨rfl, id, id⟩

theorem trans {last : Registry} (first : registry.GrowsTo grown)
    (second : grown.GrowsTo last) : registry.GrowsTo last :=
  ⟨second.identity_eq.trans first.identity_eq,
    fun named => second.nameOf?_eq (first.nameOf?_eq named),
    fun defined => second.definition?_eq (first.definition?_eq defined)⟩

theorem intern (registry : Registry) (name : String) :
    registry.GrowsTo (registry.intern name).1 where
  identity_eq := identity_intern registry name
  nameOf?_eq named := nameOf?_intern named name
  definition?_eq defined := by rw [definition?_intern, defined]

theorem foldl_store (indexed : registry.Indexed)
    (undefined : ∀ id ∈ registry.storedIds batch, registry.definition? id = none) :
    registry.GrowsTo (batch.foldl Registry.store registry) where
  identity_eq := identity_foldl_store registry batch
  nameOf?_eq named := nameOf?_foldl_store named batch
  definition?_eq defined := by
    rw [indexed.definition?_foldl_store_of_not_mem fun member => ?_, defined]
    rw [undefined _ member] at defined
    cases defined

theorem arity?_eq (growth : registry.GrowsTo grown) {count : Nat}
    (known : registry.arity? id = some count) : grown.arity? id = some count := by
  rcases arity?_eq_some_iff.mp known with ⟨definition, defined, length⟩
  exact arity?_eq_some_iff.mpr ⟨definition, growth.definition?_eq defined, length⟩

end GrowsTo

theorem Holds.mono (holds : registry.Holds id definition)
    (growth : registry.GrowsTo grown) : grown.Holds id definition where
  id_eq := holds.id_eq
  nameOf?_eq := growth.nameOf?_eq holds.nameOf?_eq
  registry_eq := holds.registry_eq.trans growth.identity_eq.symm
  parameters_nodup := holds.parameters_nodup
  fieldNames_nodup := holds.fieldNames_nodup
  owner_eq := holds.owner_eq
  ownerName_eq := holds.ownerName_eq
  fieldRegistry_eq field member :=
    (holds.fieldRegistry_eq field member).trans growth.identity_eq.symm
  types_fit field member :=
    (holds.types_fit field member).mono fun _ _ => growth.arity?_eq

/-! ## What each operation keeps -/

theorem wellFormed_empty (identity : RegistryId) : (empty identity).WellFormed where
  indexed := ⟨rfl, by simp [empty, idOf?, nameOf?]⟩
  holds defined := by simp [empty, definition?] at defined

theorem WellFormed.intern (wellFormed : registry.WellFormed) (name : String) :
    (registry.intern name).1.WellFormed where
  indexed := wellFormed.indexed.intern name
  holds defined := by
    rw [definition?_intern] at defined
    exact (wellFormed.holds defined).mono (GrowsTo.intern registry name)

theorem holds_definitionOf {declaration : ClassDeclaration}
    (fits : declaration.Fits registry.arity?)
    (named : registry.nameOf? id = some declaration.name) :
    registry.Holds id (definitionOf registry.identity id declaration) where
  id_eq := rfl
  nameOf?_eq := named
  registry_eq := rfl
  parameters_nodup := fits.parameters_nodup
  fieldNames_nodup := by
    rw [definitionOf, List.map_map]
    exact fits.fieldNames_nodup
  owner_eq := by simp [definitionOf]
  ownerName_eq := by simp [definitionOf]
  fieldRegistry_eq := by simp [definitionOf]
  types_fit := by
    simp only [definitionOf, List.forall_mem_map]
    exact fits.types_fit

/-- The references of a batch are judged by the registry that holds it already. -/
theorem WellFormed.foldl_store (wellFormed : registry.WellFormed)
    (nodup : (batch.map (·.name)).Nodup)
    (undefined : ∀ id ∈ registry.storedIds batch, registry.definition? id = none)
    (fits : ∀ declaration ∈ batch,
      declaration.Fits (batch.foldl Registry.store registry).arity?) :
    (batch.foldl Registry.store registry).WellFormed where
  indexed := wellFormed.indexed.foldl_store batch
  holds {id definition} defined := by
    by_cases member : id ∈ registry.storedIds batch
    · rcases exists_declaration_of_mem_storedIds member with ⟨declaration, entry⟩
      have stored := wellFormed.indexed.definition?_foldl_store nodup _ entry
      rw [defined, ← identity_foldl_store registry batch] at stored
      rw [Option.some.inj stored]
      exact holds_definitionOf (fits declaration (List.of_mem_zip entry).2)
        (wellFormed.indexed.nameOf?_storedIds _ entry)
    · rw [wellFormed.indexed.definition?_foldl_store_of_not_mem member] at defined
      exact (wellFormed.holds defined).mono
        (GrowsTo.foldl_store wellFormed.indexed undefined)

theorem define_eq_ok_iff :
    registry.define batch = .ok (grown, ids) ↔
      registry.plan batch = .ok ids ∧
        (∀ declaration ∈ batch,
          declaration.Fits (registry.parameterCount? (ids.zip batch))) ∧
        grown = batch.foldl Registry.store registry := by
  rw [define]
  split
  · next unplanned => simp [unplanned]
  · next foreseen planned =>
      rw [planned, Except.ok.injEq]
      split
      · next failed =>
          apply iff_of_false (by simp)
          intro parts
          rcases parts with ⟨rfl, fits, -⟩
          rw [checkClasses_eq_ok_iff.mpr fits] at failed
          cases failed
      · next passed =>
          rw [Except.ok.injEq, Prod.mk.injEq]
          constructor
          · intro parts
            rcases parts with ⟨rfl, rfl⟩
            exact ⟨rfl, checkClasses_eq_ok_iff.mp passed, rfl⟩
          · intro parts
            rcases parts with ⟨rfl, -, rfl⟩
            exact ⟨rfl, rfl⟩

/-- Counting in the batch first and then in the registry is counting in the
registry that the batch leads to. -/
theorem Indexed.parameterCount?_plan (indexed : registry.Indexed)
    (planned : registry.plan batch = .ok ids) :
    registry.parameterCount? (ids.zip batch) =
      (batch.foldl Registry.store registry).arity? := by
  funext id
  rw [plan_eq_storedIds planned, parameterCount?, arity?]
  cases found : ((registry.storedIds batch).zip batch).lookup id with
  | some declaration =>
      rcases List.lookup_eq_some_iff.mp found with ⟨before, after, split, -⟩
      have entry : (id, declaration) ∈ (registry.storedIds batch).zip batch := by
        rw [split]
        simp
      rw [indexed.definition?_foldl_store (plan_eq_ok_iff.mp planned).1.names_nodup _ entry]
      rfl
  | none =>
      have elsewhere : id ∉ registry.storedIds batch := by
        intro member
        rcases exists_declaration_of_mem_storedIds member with ⟨declaration, entry⟩
        simpa using List.lookup_eq_none_iff.mp found _ entry
      rw [indexed.definition?_foldl_store_of_not_mem elsewhere]

theorem GrowsTo.define (indexed : registry.Indexed)
    (defined : registry.define batch = .ok (grown, ids)) : registry.GrowsTo grown := by
  rcases define_eq_ok_iff.mp defined with ⟨planned, -, rfl⟩
  exact GrowsTo.foldl_store indexed (plan_eq_ok_iff.mp planned).1.storedIds_undefined

theorem WellFormed.define (wellFormed : registry.WellFormed)
    (defined : registry.define batch = .ok (grown, ids)) : grown.WellFormed := by
  rcases define_eq_ok_iff.mp defined with ⟨planned, fits, rfl⟩
  rw [wellFormed.indexed.parameterCount?_plan planned] at fits
  have fresh := (plan_eq_ok_iff.mp planned).1
  exact wellFormed.foldl_store fresh.names_nodup fresh.storedIds_undefined fits

@[simp] theorem identity_withBuiltIns (identity : RegistryId) :
    (withBuiltIns identity).identity = identity := by
  rw [withBuiltIns, identity_foldl_store, empty]

theorem wellFormed_withBuiltIns (identity : RegistryId) :
    (withBuiltIns identity).WellFormed := by
  apply (wellFormed_empty identity).foldl_store builtIns_names_nodup
  · intro id _
    rw [empty, definition?, List.getElem?_nil, Option.bind_none]
  · have plain : ∀ declaration ∈ builtIns,
        declaration.parameters.Nodup ∧ declaration.fields = [] := by decide
    intro declaration member
    rcases plain declaration member with ⟨nodup, none⟩
    exact ⟨nodup, by simp [none], by simp [none]⟩

end FieldTypes.Registry
