import FieldTypes.Proofs.Expression.Mentions
import FieldTypes.Proofs.Manifest.Registration
import FieldTypes.Proofs.Registry.Copy
import FieldTypes.Proofs.Registry.Names

/-! What the registry of a manifest holds: the built-in classes and after them its own
classes, in their order and with no name left over.  All names have their places before
the first field type is read, and so a type reads the same once everything is defined. -/

namespace FieldTypes

namespace Manifest

variable {identity : RegistryId} {manifest : Manifest} {registry : Registry}

/-! ## The identity of the registry -/

theorem named_copy (first second : RegistryId) (manifest : Manifest) :
    (named first manifest).copy second = named second manifest := by
  rw [named, named, ← Registry.withBuiltIns_copy first second]
  generalize Registry.withBuiltIns first = start
  induction manifest.classes generalizing start with
  | nil => rfl
  | cons entry rest induction =>
      rw [List.foldl_cons, List.foldl_cons, induction, Registry.intern_copy]

section

variable {left right : Registry} (ids : ∀ name, right.idOf? name = left.idOf? name)
  (lookups : ∀ name, right.lookup? name = left.lookup? name)

include lookups

theorem declareFields_congr (scope : Expression.Scope) (owner : String)
    (entries : List FieldEntry) :
    declareFields right scope owner entries = declareFields left scope owner entries := by
  induction entries with
  | nil => rfl
  | cons entry rest induction =>
      rw [declareFields, declareFields, Expression.parse_congr lookups, induction]

include ids

theorem declareClass_congr (entry : ClassEntry) :
    declareClass right entry = declareClass left entry := by
  rw [declareClass, declareClass, scopeOf, ids, declareFields_congr lookups, scopeOf]

theorem declareClasses_congr (entries : List ClassEntry) :
    declareClasses right entries = declareClasses left entries := by
  induction entries with
  | nil => rfl
  | cons entry rest induction =>
      rw [declareClasses, declareClasses, declareClass_congr ids lookups, induction]

end

/-- The identity of a registry has no part in how it is built. -/
theorem build_copy (first second : RegistryId) (manifest : Manifest) :
    build second manifest = (build first manifest).map (·.copy second) := by
  rw [build, build, ← named_copy first second,
    declareClasses_congr (Registry.idOf?_copy second _) (Registry.lookup?_copy second _)]
  cases declareClasses (named first manifest) manifest.classes with
  | error failure => rfl
  | ok batch =>
      dsimp only
      rw [Registry.define_copy]
      cases (named first manifest).define batch with
      | error failure => rfl
      | ok result => rfl

/-! ## Before and after the classes are defined -/

section

variable (built : build identity manifest = .ok registry)

include built

theorem idOf?_of_build (name : String) :
    registry.idOf? name = (named identity manifest).idOf? name := by
  rcases build_eq_ok_iff_accepts.mp built with ⟨batch, declared, -, rfl⟩
  exact Registry.idOf?_foldl_store_of_known (isSome_idOf?_of_declared declared) name

theorem identity_of_build : registry.identity = identity := by
  rcases build_eq_ok_iff_accepts.mp built with ⟨batch, -, -, rfl⟩
  rw [Registry.identity_foldl_store, identity_named]

theorem lookup?_of_build (name : String) :
    registry.lookup? name = (named identity manifest).lookup? name :=
  (named_reachable identity manifest).wellFormed.indexed.lookup?_eq_of_idOf?_eq
    (build_reachable built).wellFormed.indexed (idOf?_of_build built) name

theorem parse_of_build (scope : Expression.Scope) (text : String) :
    Expression.parse registry scope text =
      Expression.parse (named identity manifest) scope text :=
  Expression.parse_congr (lookup?_of_build built) scope text

/-! ## Names -/

/-- The classes have distinct names, none of which is that of a built-in class. -/
theorem names_nodup_of_build :
    (Registry.builtIns.map (·.name) ++ manifest.classes.map (·.name)).Nodup := by
  rcases build_eq_ok_iff_accepts.mp built with ⟨batch, declared, accepted, -⟩
  have defines := named_defines identity manifest
  rw [← names_of_declared declared]
  refine List.Nodup.append Registry.builtIns_names_nodup accepted.names_nodup ?_
  intro name builtIn declaredName
  rcases List.mem_map.mp builtIn with ⟨builtInClass, builtInMember, rfl⟩
  rcases List.mem_map.mp declaredName with ⟨declaration, member, same⟩
  rcases Option.isSome_iff_exists.mp (defines.known _ builtInMember) with ⟨id, known⟩
  have defined := defines.definition?_eq_some_iff.mpr ⟨_, builtInMember, known, rfl⟩
  rw [← same] at known
  rw [accepted.undefined _ member id known] at defined
  cases defined

end

theorem names_withBuiltIns (identity : RegistryId) :
    (Registry.withBuiltIns identity).slots.map (·.name) = Registry.builtIns.map (·.name) := by
  have indexed := (Registry.wellFormed_empty identity).indexed
  exact indexed.names_foldl_of_nodup (fun indexed => indexed.store) Registry.names_store
    Registry.builtIns_names_nodup

theorem names_named
    (nodup : (Registry.builtIns.map (·.name) ++ manifest.classes.map (·.name)).Nodup) :
    (named identity manifest).slots.map (·.name) =
      Registry.builtIns.map (·.name) ++ manifest.classes.map (·.name) := by
  have indexed := (Registry.wellFormed_withBuiltIns identity).indexed
  rw [← names_withBuiltIns identity] at nodup ⊢
  exact indexed.names_foldl_of_nodup (fun indexed entry => indexed.intern entry.name)
    (fun _ _ => rfl) nodup

section

variable (built : build identity manifest = .ok registry)

include built

theorem names_of_build :
    registry.slots.map (·.name) =
      Registry.builtIns.map (·.name) ++ manifest.classes.map (·.name) := by
  rw [(named_reachable identity manifest).wellFormed.indexed.names_eq
    (build_reachable built).wellFormed.indexed (idOf?_of_build built)]
  exact names_named (names_nodup_of_build built)

/-- Ids count first the built-in classes. -/
theorem idOf?_builtIn {index : Nat} {declaration : ClassDeclaration}
    (place : Registry.builtIns[index]? = some declaration) :
    registry.idOf? declaration.name = some ⟨index⟩ := by
  have within : index < (Registry.builtIns.map (·.name)).length := by
    rw [List.length_map]
    exact (List.getElem?_eq_some_iff.mp place).1
  rw [(build_reachable built).wellFormed.indexed.idOf?_iff, Registry.nameOf?_eq_getElem?,
    names_of_build built, List.getElem?_append_left within, List.getElem?_map, place,
    Option.map_some]

/-- Then they count the classes of the manifest. -/
theorem idOf?_entry {index : Nat} {entry : ClassEntry}
    (place : manifest.classes[index]? = some entry) :
    registry.idOf? entry.name = some ⟨17 + index⟩ := by
  have length : (Registry.builtIns.map (·.name)).length = 17 := rfl
  rw [(build_reachable built).wellFormed.indexed.idOf?_iff, Registry.nameOf?_eq_getElem?,
    names_of_build built, List.getElem?_append_right (length ▸ Nat.le_add_right 17 index), length,
    Nat.add_sub_cancel_left, List.getElem?_map, place, Option.map_some]

/-! ## Classes -/

theorem definition?_builtIn {index : Nat} {declaration : ClassDeclaration}
    (place : Registry.builtIns[index]? = some declaration) :
    registry.definition? ⟨index⟩ = some (Registry.definitionOf identity ⟨index⟩ declaration) := by
  have known := idOf?_builtIn built place
  rw [idOf?_of_build built] at known
  rcases build_eq_ok_iff_accepts.mp built with ⟨batch, -, accepted, rfl⟩
  have reachable := named_reachable identity manifest
  have defined := (named_defines identity manifest).definition?_eq_some_iff.mpr
    ⟨declaration, List.mem_of_getElem? place, known, rfl⟩
  rw [identity_named] at defined
  exact (Registry.GrowsTo.foldl_store reachable.wellFormed.indexed
    accepted.fresh.storedIds_undefined).definition?_eq defined

/-- An entry is stored as the class that was declared for it. -/
theorem definition?_entry {index : Nat} {entry : ClassEntry}
    (place : manifest.classes[index]? = some entry) :
    ∃ declaration, declareClass (named identity manifest) entry = .ok declaration ∧
      registry.definition? ⟨17 + index⟩ =
        some (Registry.definitionOf identity ⟨17 + index⟩ declaration) := by
  have known := idOf?_entry built place
  rcases build_eq_ok_iff_accepts.mp built with ⟨batch, declared, accepted, rfl⟩
  rcases exists_mem_of_forall₂ declared (List.mem_of_getElem? place) with
    ⟨declaration, member, entryDeclared⟩
  rcases declareClass_eq_ok_iff.mp entryDeclared with ⟨fields, -, rfl⟩
  refine ⟨_, entryDeclared, ?_⟩
  rw [(named_reachable identity manifest).wellFormed.indexed.definition?_foldl_store_eq_some_iff
    accepted.names_nodup accepted.fresh.storedIds_undefined, identity_named]
  exact .inr ⟨_, member, known, rfl⟩

/-- No name is without a class. -/
theorem isDefined_of_build {id : ClassId} (named : (registry.nameOf? id).isSome = true) :
    registry.isDefined id = true := by
  have within := Registry.nameOf?_isSome_iff.mp named
  have length := congrArg List.length (names_of_build built)
  rw [List.length_map, List.length_append, List.length_map, List.length_map] at length
  have builtInLength : Registry.builtIns.length = 17 := rfl
  rw [Registry.isDefined, Option.isSome_iff_exists]
  by_cases builtIn : id.index < 17
  · exact ⟨_, definition?_builtIn built (List.getElem?_eq_getElem builtIn)⟩
  · have place : id.index - 17 < manifest.classes.length := by omega
    rcases definition?_entry built (List.getElem?_eq_getElem place) with ⟨declaration, -, defined⟩
    rw [Nat.add_sub_cancel' (Nat.le_of_not_lt builtIn)] at defined
    exact ⟨_, defined⟩

end

end Manifest

/-! ## Entries -/

/-- The definition of an entry: its names as they are, and for each field the type that
its text stands for in the scope of the class. -/
structure Registry.Represents (registry : Registry) (entry : ClassEntry)
    (definition : ClassDefinition) : Prop where
  name_eq : definition.name = entry.name
  parameters_eq : definition.parameters = entry.parameters
  fields : List.Forall₂ (fun written field => field.name = written.name ∧
    Expression.parse registry ⟨entry.parameters, some (entry.name, definition.id)⟩ written.type =
      .ok field.type) entry.fields definition.fields

namespace Manifest

theorem exists_represents (built : build identity manifest = .ok registry) {index : Nat}
    {entry : ClassEntry} (place : manifest.classes[index]? = some entry) :
    ∃ definition, registry.definition? ⟨17 + index⟩ = some definition ∧
      definition.id = ⟨17 + index⟩ ∧ registry.Represents entry definition := by
  rcases definition?_entry built place with ⟨declaration, declared, defined⟩
  refine ⟨_, defined, rfl, ?_⟩
  rcases declareClass_eq_ok_iff.mp declared with ⟨fields, read, rfl⟩
  rw [declareFields_eq_ok_iff, scopeOf, ← idOf?_of_build built, idOf?_entry built place,
    Option.map_some] at read
  refine ⟨rfl, rfl, ?_⟩
  rw [Registry.definitionOf, List.forall₂_map_right_iff]
  apply read.imp
  intro written field parts
  rcases parts with ⟨type, parsed, rfl⟩
  exact ⟨rfl, (parse_of_build built _ _).trans parsed⟩

/-- The built-in classes and then the classes of the manifest, in order and nothing else.
Each field has the type that its text stands for once all is defined. -/
structure StoredIn (registry : Registry) (manifest : Manifest) : Prop where
  size_eq : registry.size = 17 + manifest.classes.length
  definitions_eq : registry.definitions.map (·.name) =
    Registry.builtIns.map (·.name) ++ manifest.classes.map (·.name)
  names_eq : registry.slots.map (·.name) = registry.definitions.map (·.name)
  builtIn : ∀ index declaration, Registry.builtIns[index]? = some declaration →
    registry.definition? ⟨index⟩ =
      some (Registry.definitionOf registry.identity ⟨index⟩ declaration)
  own : ∀ index entry, manifest.classes[index]? = some entry →
    ∃ definition, registry.definition? ⟨17 + index⟩ = some definition ∧
      definition.id = ⟨17 + index⟩ ∧ registry.Represents entry definition

theorem storedIn_of_build (built : build identity manifest = .ok registry) :
    StoredIn registry manifest := by
  have names := names_of_build built
  have defined := (build_reachable built).wellFormed.names_definitions
    fun id => isDefined_of_build built
  rw [names] at defined
  refine ⟨?_, defined, names.trans defined.symm, ?_, fun _ _ => exists_represents built⟩
  · have length := congrArg List.length defined
    rwa [List.length_map, List.length_append, List.length_map, List.length_map] at length
  · intro index declaration place
    rw [identity_of_build built]
    exact definition?_builtIn built place

/-- The registry of the two classes that mention each other. -/
def nodeRegistry : Registry :=
  (build ⟨0⟩ nodeManifest).toOption.getD (.empty ⟨0⟩)

theorem build_nodeManifest : build ⟨0⟩ nodeManifest = .ok nodeRegistry := by
  decide +kernel

end Manifest

end FieldTypes
